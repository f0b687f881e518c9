import SegmentBench.Proofs.Document.Lines
import SegmentBench.Proofs.Text.Numerals

/-!
# Lines as they are written

Headers between brackets, and entries of a bare key, an equals sign between spaces and a
value.  Numbers are written in digits, strings between double quotes without escapes.
-/

namespace SegmentBench.Document

variable {c : Char} {text rest : List Char} {content : Value}

/-! ## Characters -/

theorem ne_of_satisfies {p : Char → Bool} {d : Char} (hc : p c = true) (hd : p d = false) :
    c ≠ d := by
  rintro rfl
  rw [hc] at hd
  cases hd

theorem isSpace_eq_false (hspace : c ≠ ' ') (htab : c ≠ '\t') : isSpace c = false := by
  simp [isSpace, hspace, htab]

/-! ## Values -/

/-- The text is a value and begins with neither a blank nor a bracket. -/
structure Writes (text : List Char) (content : Value) : Prop where
  whole : scalar text = .ok (content, [])
  start : ∀ c ∈ text.head?, isSpace c = false ∧ c ≠ '[' ∧ c ≠ '\x7b'

theorem string?_eq_none (hdouble : text.head? ≠ some '"') (hsingle : text.head? ≠ some '\'') :
    string? text = none := by
  have htripled {quote : Char} (hhead : text.head? ≠ some quote) : ¬Tripled quote text := by
    rintro ⟨rest, rfl⟩
    exact hhead rfl
  rw [string?_of_not_tripled (htripled hdouble) (htripled hsingle), lineString?]
  · rintro rest rfl
    exact hdouble rfl
  · rintro rest rfl
    exact hsingle rfl

theorem splitWord_of_all (hword : ∀ c ∈ text, isWordCharacter c = true) :
    splitWord text = (text, []) := by
  simp only [splitWord, List.takeWhile_eq_self_iff.mpr hword,
    List.dropWhile_eq_nil_iff.mpr hword]

theorem writes_word (hnonempty : text ≠ []) (hword : ∀ c ∈ text, isWordCharacter c = true)
    (hdouble : text.head? ≠ some '"') (hsingle : text.head? ≠ some '\'')
    (hread : word text = .ok content) : Writes text content where
  whole := by
    simp only [scalar, string?_eq_none hdouble hsingle, splitWord_of_all hword, if_neg hnonempty,
      hread, ok_bind]
  start := by
    intro c hc
    have hc := hword c (List.mem_of_head? hc)
    exact ⟨isSpace_eq_false (ne_of_satisfies hc (by decide)) (ne_of_satisfies hc (by decide)),
      ne_of_satisfies hc (by decide), ne_of_satisfies hc (by decide)⟩

theorem writes_boolean (value : Bool) :
    Writes (if value then "true" else "false").toList (.boolean value) := by
  cases value <;>
    exact writes_word (by decide) (by decide) (by decide) (by decide) rfl

/-! ### Numbers -/

section

structure IsNumeral (text : List Char) : Prop where
  nonempty : text ≠ []
  decimal : ∀ c ∈ text, Numeral.isDecimal c = true
  short : text.head? = some '0' → text.length = 1

theorem isNumeral_digits (value : Nat) : IsNumeral (Numeral.digits 10 value) :=
  ⟨Numeral.digits_ne_nil value, fun _ => Numeral.isDecimal_of_mem_digits,
    Numeral.length_digits_of_head?⟩

theorem isWordCharacter_of_isDecimal (hdecimal : Numeral.isDecimal c = true) :
    isWordCharacter c = true := by
  have hseparators : ∀ d ∈ "=,[]\x7b\x7d \t#\r\n".toList, Numeral.isDecimal d = false := by decide
  rw [isWordCharacter, Bool.not_eq_true', List.contains_eq_mem, decide_eq_false_iff_not]
  intro hmem
  exact ne_of_satisfies hdecimal (hseparators c hmem) rfl

theorem separatedFrom_of_notMem {digit : Char → Bool} {ready : Bool} (hplain : '_' ∉ text) :
    separatedFrom ready digit text = true := by
  induction text generalizing ready with
  | nil => rfl
  | cons c text ih =>
      obtain ⟨hne, hrest⟩ := not_or.mp (mt List.mem_cons.mpr hplain)
      rw [separatedFrom, if_neg (Ne.symm hne)]
      exact ih hrest

namespace IsNumeral

theorem ne_of_mem (htext : IsNumeral text) (hmem : c ∈ text) {d : Char}
    (hd : Numeral.isDecimal d = false) : c ≠ d :=
  ne_of_satisfies (htext.decimal c hmem) hd

theorem head?_ne (htext : IsNumeral text) {d : Char} (hd : Numeral.isDecimal d = false) :
    text.head? ≠ some d :=
  fun hhead => htext.ne_of_mem (List.mem_of_head? hhead) hd rfl

theorem withoutUnderscores_eq (htext : IsNumeral text) : withoutUnderscores text = text :=
  List.filter_eq_self.mpr fun _ hmem => decide_eq_true (htext.ne_of_mem hmem (by decide))

theorem separated_eq_true (htext : IsNumeral text) (digit : Char → Bool) :
    separated digit text = true := by
  have hplain : '_' ∉ text := fun hmem => htext.ne_of_mem hmem (by decide) rfl
  cases text with
  | nil => rfl
  | cons c text =>
      obtain ⟨hne, hrest⟩ := not_or.mp (mt List.mem_cons.mpr hplain)
      rw [separated, separatedFrom_of_notMem hrest, Bool.and_true]
      exact decide_eq_true (Ne.symm hne)

theorem splitSign_eq (htext : IsNumeral text) : splitSign text = (false, text) := by
  rw [splitSign]
  · rintro rest rfl
    exact htext.head?_ne (by decide) rfl
  · rintro rest rfl
    exact htext.head?_ne (by decide) rfl

theorem passWhole?_isSome (htext : IsNumeral text) : (passWhole? text).isSome = true := by
  have hrun : text.takeWhile (fun c => Numeral.isDecimal c || c = '_') = text :=
    List.takeWhile_eq_self_iff.mpr fun c hmem => by rw [htext.decimal c hmem, Bool.true_or]
  have hshort : ¬(text.head? = some '0' ∧ 1 < (withoutUnderscores text).length) := by
    rintro ⟨hhead, hlong⟩
    rw [htext.withoutUnderscores_eq, htext.short hhead] at hlong
    exact absurd hlong (by decide)
  have hany : text.any Numeral.isDecimal = true := by
    obtain ⟨c, hmem⟩ := List.exists_mem_of_ne_nil text htext.nonempty
    exact List.any_eq_true.mpr ⟨c, hmem, htext.decimal c hmem⟩
  simp only [passWhole?, hrun, if_neg hshort, passDigits?, hany, if_true, Option.isSome_some]

theorem number?_eq (htext : IsNumeral text) :
    number? text = some (integer (Numeral.append 10 0 text)) := by
  have hrest : text.dropWhile Numeral.isDecimal = [] :=
    List.dropWhile_eq_nil_iff.mpr htext.decimal
  have hwhole : wholeNumber false text = integer (Numeral.append 10 0 text) := by
    simp only [wholeNumber, htext.withoutUnderscores_eq, List.all_eq_true.mpr htext.decimal,
      if_true, signed, Bool.false_eq_true, if_false]
  simp [number?, htext.splitSign_eq, hrest, htext.passWhole?_isSome, htext.separated_eq_true,
    hwhole]

theorem word_eq (htext : IsNumeral text) :
    word text = .ok (integer (Numeral.append 10 0 text)) := by
  have hother (d : Char) (rest : List Char) (hd : Numeral.isDecimal d = false) :
      text ≠ d :: rest := by
    rintro rfl
    exact htext.head?_ne hd rfl
  have hsigned : signedWord text = .ok (integer (Numeral.append 10 0 text)) := by
    simp only [signedWord, htext.splitSign_eq, if_neg (hother 'i' _ (by decide)),
      if_neg (hother 'n' _ (by decide)), htext.number?_eq]
  rw [word, if_neg (hother 't' _ (by decide)), if_neg (hother 'f' _ (by decide)), hsigned]
  rintro letter rest rfl
  exact absurd (htext.short rfl) (by simp)

end IsNumeral

theorem writes_digits {value : Nat} (hvalue : value ≤ greatestInteger) :
    Writes (Numeral.digits 10 value) (.integer value) := by
  have htext := isNumeral_digits value
  have hinteger : integer value = .integer value := by
    have hleast : leastInteger ≤ 0 := by decide
    rw [integer, if_pos ⟨hleast.trans (Int.natCast_nonneg value), hvalue⟩]
  refine writes_word htext.nonempty ?_ (htext.head?_ne (by decide)) (htext.head?_ne (by decide)) ?_
  · exact fun c hmem => isWordCharacter_of_isDecimal (htext.decimal c hmem)
  · rw [htext.word_eq, Numeral.append_digits, hinteger]

end

/-! ### Strings -/

/-- Characters that stand for themselves between double quotes. -/
def IsPlain (text : List Char) : Prop :=
  ∀ c ∈ text, c ≠ '"' ∧ c ≠ '\\' ∧ isForbidden c = false

instance (text : List Char) : Decidable (IsPlain text) :=
  inferInstanceAs (Decidable (∀ c ∈ text, c ≠ '"' ∧ c ≠ '\\' ∧ isForbidden c = false))

theorem basicFrom_plain (hplain : IsPlain text) (read rest : List Char) :
    basicFrom false read (text ++ '"' :: rest) = .ok (read.reverse ++ text, rest) := by
  induction text generalizing read with
  | nil => simp [basicFrom, finish?]
  | cons c text ih =>
      obtain ⟨⟨hquote, hbackslash, hallowed⟩, hrest⟩ := List.forall_mem_cons.mp hplain
      rw [List.cons_append, basicFrom, if_neg hquote, if_neg hbackslash, hallowed]
      simpa using ih hrest (c :: read)

theorem IsPlain.notMem (hplain : IsPlain text) : '"' ∉ text :=
  fun hmem => (hplain _ hmem).1 rfl

theorem not_tripled_quoted (hplain : IsPlain text) : ¬Tripled '"' ('"' :: (text ++ ['"'])) := by
  rintro ⟨rest, hrest⟩
  cases text with
  | nil => cases hrest
  | cons c text =>
      obtain rfl : c = '"' := (List.cons.inj (List.cons.inj hrest).2).1
      exact hplain.notMem List.mem_cons_self

theorem writes_quoted (hplain : IsPlain text) :
    Writes ('"' :: (text ++ ['"'])) (.string (String.ofList text)) where
  whole := by
    have hsingle : ¬Tripled '\'' ('"' :: (text ++ ['"'])) := by
      rintro ⟨rest, ⟨⟩⟩
    rw [scalar, string?_of_not_tripled (not_tripled_quoted hplain) hsingle, lineString?,
      basicFrom_plain hplain]
    rfl
  start := by
    rintro c ⟨⟩
    decide

theorem Writes.value_eq (hwrites : Writes text content) (depth fuel : Nat) :
    value depth (fuel + 1) text = .ok (content, []) := by
  match text with
  | [] => cases hwrites.whole
  | c :: rest =>
      obtain ⟨-, hbracket, hbrace⟩ := hwrites.start c rfl
      rw [value_scalar hbracket hbrace, hwrites.whole]

/-! ## Keys -/

structure IsBare (name : List Char) : Prop where
  nonempty : name ≠ []
  bare : ∀ c ∈ name, isBareKeyCharacter c = true

section

variable {name : List Char}

theorem skipSpaces_eq (hhead : ∀ c ∈ text.head?, isSpace c = false) : skipSpaces text = text := by
  cases text with
  | nil => rfl
  | cons c text => rw [skipSpaces, List.dropWhile_cons_of_neg (by simp [hhead c rfl])]

theorem IsBare.head_ne (hname : IsBare name) (rest : List Char) {d : Char}
    (hd : isBareKeyCharacter d = false) : ∀ c ∈ (name ++ rest).head?, c ≠ d := by
  match name with
  | [] => exact absurd rfl hname.nonempty
  | c :: name =>
      rintro c ⟨⟩
      exact ne_of_satisfies (hname.bare c List.mem_cons_self) hd

theorem IsBare.skipSpaces_eq (hname : IsBare name) (rest : List Char) :
    skipSpaces (name ++ rest) = name ++ rest :=
  Document.skipSpaces_eq fun c hc =>
    isSpace_eq_false (hname.head_ne rest (by decide) c hc) (hname.head_ne rest (by decide) c hc)

theorem lineString?_eq_none (hhead : ∀ c ∈ text.head?, c ≠ '"' ∧ c ≠ '\'') :
    lineString? text = none := by
  rw [lineString?]
  · rintro rest rfl
    exact (hhead _ rfl).1 rfl
  · rintro rest rfl
    exact (hhead _ rfl).2 rfl

theorem keyName_bare (hname : IsBare name)
    (hrest : ∀ c ∈ rest.head?, isBareKeyCharacter c = false) :
    keyName (name ++ rest) = .ok (String.ofList name, rest) := by
  have hunquoted : lineString? (name ++ rest) = none :=
    lineString?_eq_none fun c hc =>
      ⟨hname.head_ne rest (by decide) c hc, hname.head_ne rest (by decide) c hc⟩
  have htake : rest.takeWhile isBareKeyCharacter = [] := by
    cases rest with
    | nil => rfl
    | cons c rest => exact List.takeWhile_cons_of_neg (by simp [hrest c rfl])
  have hdrop : rest.dropWhile isBareKeyCharacter = rest := by
    cases rest with
    | nil => rfl
    | cons c rest => exact List.dropWhile_cons_of_neg (by simp [hrest c rfl])
  simp only [keyName, hunquoted, List.takeWhile_append_of_pos hname.bare, htake, List.append_nil,
    List.dropWhile_append_of_pos hname.bare, hdrop, if_neg hname.nonempty]

theorem key_bare (hname : IsBare name) (hrest : ∀ c ∈ rest.head?, isBareKeyCharacter c = false)
    (hdot : (skipSpaces rest).head? ≠ some '.') (fuel : Nat) :
    key (fuel + 1) (name ++ rest) = .ok (⟨[], String.ofList name⟩, skipSpaces rest) := by
  have hkey := keyName_bare hname hrest
  rw [← hname.skipSpaces_eq rest] at hkey
  rw [key, keyFrom_last hkey hdot, if_pos (by decide)]
  rfl

end

/-! ## Lines -/

theorem scan_nil (fuel : Nat) : scan (fuel + 1) [] = .ok [] := rfl

section

variable {name key : String}

theorem states_item {statement : Item} (hspace : isSpace c = false) (hsharp : c ≠ '#')
    (hbreak : lineBreak? (c :: rest) = none)
    (hitem : ∀ fuel, item (fuel + 2) (c :: rest) = .ok (statement, [])) :
    States (c :: rest) [statement] := by
  have hspaces : skipSpaces (c :: rest) = c :: rest :=
    skipSpaces_eq fun d hd => Option.some.inj hd ▸ hspace
  have hskip (fuel : Nat) : skipLines (fuel + 1) (c :: rest) = .ok (c :: rest) := by
    rw [skipLines_stop (by simpa [hspaces] using hsharp) (by rwa [hspaces]), hspaces]
  have hfuel : 4 * (c :: rest).length + 4 = 4 * rest.length + 5 + 2 + 1 := by
    rw [List.length_cons]
    omega
  rw [States, hfuel, scan_succ, hskip, ok_bind]
  exact scanFrom_cons (hitem _) rfl (scan_nil _)

def headerLine (name : String) : List Char := '[' :: (name.toList ++ [']'])

def entryLine (key : String) (text : List Char) : List Char :=
  key.toList ++ ' ' :: '=' :: ' ' :: text

theorem says_header (hname : IsBare name.toList) : Says (headerLine name) (.header name) := by
  refine states_item (by decide) (by decide) rfl fun fuel => ?_
  have hsingle : (name.toList ++ [']']).head? ≠ some '[' := fun hhead =>
    hname.head_ne _ (by decide) _ hhead rfl
  have hbracket : ∀ c ∈ [']'].head?, isBareKeyCharacter c = false := by
    rintro c ⟨⟩
    rfl
  have hread := key_bare hname hbracket (by decide) (fuel + 2)
  rw [item_header hsingle, header, hread, String.ofList_toList]
  rfl

theorem assignment_written (hkey : IsBare key.toList) (hwrites : Writes text content)
    (depth fuel : Nat) :
    assignment false depth (fuel + 2) (entryLine key text) =
      .ok (plainAssignment (key, content), []) := by
  have hspace : ∀ c ∈ (' ' :: '=' :: ' ' :: text).head?, isBareKeyCharacter c = false := by
    rintro c ⟨⟩
    rfl
  have hread := key_bare hkey hspace (fun hdot => by cases hdot) (fuel + 1)
  have hequals : skipGap false (fuel + 2) (skipSpaces (' ' :: '=' :: ' ' :: text)) =
      .ok ('=' :: ' ' :: text) := rfl
  have hvalue : skipGap false (fuel + 2) (' ' :: text) = .ok text := by
    have htext : skipSpaces (' ' :: text) = text :=
      skipSpaces_eq fun c hc => (hwrites.start c hc).1
    rw [skipGap, if_neg (by decide), htext]
  rw [assignment, entryLine, hread, ok_bind, String.ofList_toList]
  dsimp only
  rw [hequals, ok_bind]
  change (skipGap false (fuel + 2) (' ' :: text) >>= fun rest =>
    value depth (fuel + 1) rest >>= fun read =>
      .ok (plainAssignment (key, read.1), read.2)) = _
  rw [hvalue, ok_bind, hwrites.value_eq, ok_bind]

theorem says_entry (hkey : IsBare key.toList) (hwrites : Writes text content) :
    Says (entryLine key text) (.entry key content) := by
  obtain ⟨c, rest, hline⟩ := List.exists_cons_of_ne_nil (show entryLine key text ≠ [] by
    simp [entryLine])
  have hne {d : Char} (hd : isBareKeyCharacter d = false) : c ≠ d :=
    hkey.head_ne _ hd c (by rw [← entryLine, hline]; rfl)
  have hbreak : lineBreak? (c :: rest) = none := by
    rw [lineBreak?]
    · intro rest hnewline
      exact hne (by decide) (List.cons.inj hnewline).1
    · intro rest hreturn
      exact hne (by decide) (List.cons.inj hreturn).1
  rw [hline]
  refine states_item (isSpace_eq_false (hne (by decide)) (hne (by decide))) (hne (by decide))
    hbreak fun fuel => ?_
  have hread := assignment_written hkey hwrites deepest fuel
  rw [hline] at hread
  rw [item_assignment (hne (by decide)), hread]
  rfl

end

/-! ## Documents with one entry -/

section

variable {mark : List Char} {before between behind : List (List Char)}

theorem says_blanks {blanks : List (List Char)} (hblank : ∀ text ∈ blanks, Says text .blank) :
    List.Forall₂ Says blanks (blanks.map fun _ => .blank) :=
  List.forall₂_map_right_iff.mpr (List.forall₂_same.mpr hblank)

/-- A header and an entry, with blank lines around them. -/
theorem read_single {name key : String} {text : List Char} {content : Value}
    (hmark : IsLineBreak mark) (hname : IsBare name.toList) (hkey : IsBare key.toList)
    (hwrites : Writes text content) (hbefore : ∀ text ∈ before, Says text .blank)
    (hbetween : ∀ text ∈ between, Says text .blank)
    (hbehind : ∀ text ∈ behind, Says text .blank) :
    read (mark.intercalate
        (before ++ headerLine name :: (between ++ entryLine key text :: behind))) =
      .ok (.table [(name, .table [(key, content)])]) := by
  have hlines : List.Forall₂ Says
      (before ++ headerLine name :: (between ++ entryLine key text :: behind))
      (before.map (fun _ => .blank) ++ .header name ::
        (between.map (fun _ => .blank) ++ .entry key content ::
          (behind.map (fun _ => .blank) ++ []))) := by
    rw [List.append_nil]
    exact List.rel_append (says_blanks hbefore) (.cons (says_header hname)
      (List.rel_append (says_blanks hbetween)
        (.cons (says_entry hkey hwrites) (says_blanks hbehind))))
  rw [read_lines_iff hmark hlines]
  simp only [entriesAbove_blanks, sectionsOf_blanks, entriesAbove, sectionsOf]
  exact ⟨⟨List.nodup_singleton _, List.forall_mem_singleton.mpr (List.nodup_singleton _)⟩, rfl⟩

end

end SegmentBench.Document
