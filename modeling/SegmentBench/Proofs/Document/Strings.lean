import Mathlib.Data.List.TakeWhile
import SegmentBench.Document.Strings
import SegmentBench.Proofs.Results

/-!
# Strings in front of more text

What is read at the start of a text is read in the same way when a line break and more
text follow it, so that a line of a document can be read on its own.  This is shown for
one kind of string after the other: none of them looks beyond the line on which it ends.
-/

namespace SegmentBench

namespace Document

variable {α β : Type} {tail : List Char}

/-- What is read of a text alone is read of it in front of a tail too, with the tail left
behind the rest. -/
def ReadsOn (tail : List Char) (alone inFront : Except Fault (α × List Char)) : Prop :=
  ∀ content rest, alone = .ok (content, rest) → inFront = .ok (content, rest ++ tail)

namespace ReadsOn

theorem error {fault : Fault} {inFront : Except Fault (α × List Char)} :
    ReadsOn tail (.error fault) inFront := by
  rintro content rest ⟨⟩

theorem ok {content : α} {rest : List Char} :
    ReadsOn tail (.ok (content, rest)) (.ok (content, rest ++ tail)) := by
  rintro _ _ ⟨⟩
  rfl

theorem bind {alone inFront : Except Fault (α × List Char)}
    {next next' : α × List Char → Except Fault (β × List Char)}
    (hfirst : ReadsOn tail alone inFront)
    (hnext : ∀ content rest, ReadsOn tail (next (content, rest)) (next' (content, rest ++ tail))) :
    ReadsOn tail (alone >>= next) (inFront >>= next') := by
  intro content rest hok
  cases hread : alone with
  | error fault =>
      rw [hread] at hok
      cases hok
  | ok first =>
      rw [hread] at hok
      rw [hfirst _ _ hread]
      exact hnext _ _ _ _ hok

theorem map {alone inFront : Except Fault (α × List Char)} (f : α → β)
    (hfirst : ReadsOn tail alone inFront) :
    ReadsOn tail (alone.map fun (content, rest) => (f content, rest))
      (inFront.map fun (content, rest) => (f content, rest)) := by
  cases hread : alone with
  | error fault => exact error
  | ok first =>
      rw [hfirst _ _ hread]
      exact ok

theorem of_error {alone inFront : Except Fault (α × List Char)}
    (herror : ∃ fault, alone = .error fault) : ReadsOn tail alone inFront := by
  obtain ⟨fault, rfl⟩ := herror
  exact .error

theorem lift {first : Except Fault α}
    {next next' : α → Except Fault (β × List Char)}
    (hnext : ∀ content, ReadsOn tail (next content) (next' content)) :
    ReadsOn tail (first >>= next) (first >>= next') := by
  cases first with
  | error fault => exact .error
  | ok content => exact hnext content

end ReadsOn

/-! ## Line breaks behind a text -/

theorem lineBreak?_append {text rest : List Char} (hbreak : lineBreak? text = some rest)
    (tail : List Char) : lineBreak? (text ++ tail) = some (rest ++ tail) := by
  unfold lineBreak? at hbreak
  split at hbreak <;> cases hbreak <;> rfl

theorem breaks_append {text : List Char} (hbreak : breaks text = true) (tail : List Char) :
    breaks (text ++ tail) = true := by
  obtain ⟨rest, hrest⟩ := Option.isSome_iff_exists.mp hbreak
  exact Option.isSome_iff_exists.mpr ⟨_, lineBreak?_append hrest tail⟩

theorem lineBreak?_eq_none_iff {text : List Char} :
    lineBreak? text = none ↔ breaks text = false := by
  simp [breaks]

/-- Only a carriage return can turn into a line break by what follows it. -/
theorem breaks_append_or (c : Char) (rest tail : List Char) :
    breaks (c :: (rest ++ tail)) = breaks (c :: rest) ∨ c = '\r' := by
  by_cases hreturn : c = '\r'
  · exact .inr hreturn
  by_cases hnewline : c = '\n'
  · subst hnewline
    exact .inl rfl
  · simp [breaks, lineBreak?, hreturn, hnewline]

def AtLineEnd (tail : List Char) : Prop := tail = [] ∨ breaks tail = true

theorem AtLineEnd.head_cases (hend : AtLineEnd tail) :
    ∀ c ∈ tail.head?, c = '\n' ∨ c = '\r' := by
  obtain rfl | hbreak := hend
  · rintro c ⟨⟩
  · unfold breaks lineBreak? at hbreak
    split at hbreak
    · rintro c ⟨⟩
      exact .inl rfl
    · rintro c ⟨⟩
      exact .inr rfl
    · cases hbreak

theorem AtLineEnd.head_false {p : Char → Bool} (hend : AtLineEnd tail) (hnewline : p '\n' = false)
    (hreturn : p '\r' = false) : ∀ c ∈ tail.head?, p c = false := by
  intro c hc
  obtain rfl | rfl := hend.head_cases c hc
  · exact hnewline
  · exact hreturn

theorem takeWhile_append {p : Char → Bool} (hend : AtLineEnd tail)
    (hnewline : p '\n' = false) (hreturn : p '\r' = false) (text : List Char) :
    (text ++ tail).takeWhile p = text.takeWhile p := by
  have hstop : tail.takeWhile p = [] := by
    have hhead := hend.head_false hnewline hreturn
    cases tail <;> simp_all
  rw [List.takeWhile_append, hstop]
  split
  · rename_i hwhole
    rw [List.append_nil, (List.takeWhile_prefix p).eq_of_length hwhole]
  · rfl

theorem dropWhile_append {p : Char → Bool} (hend : AtLineEnd tail)
    (hnewline : p '\n' = false) (hreturn : p '\r' = false) (text : List Char) :
    (text ++ tail).dropWhile p = text.dropWhile p ++ tail := by
  have hstop : tail.dropWhile p = tail := by
    have hhead := hend.head_false hnewline hreturn
    cases tail <;> simp_all
  rw [List.dropWhile_append, hstop]
  split
  · rename_i hempty
    rw [List.isEmpty_iff.mp hempty, List.nil_append]
  · rfl

theorem skipSpaces_append (hend : AtLineEnd tail) (text : List Char) :
    skipSpaces (text ++ tail) = skipSpaces text ++ tail :=
  dropWhile_append hend (by decide) (by decide) text

/-! ## Strings -/

def IsQuote (quote : Char) : Prop := quote = '"' ∨ quote = '\''

theorem AtLineEnd.head_ne {quote : Char} (hend : AtLineEnd tail) (hquote : IsQuote quote) :
    ∀ c ∈ tail.head?, c ≠ quote := by
  intro c hc
  obtain rfl | rfl := hend.head_cases c hc <;> obtain rfl | rfl := hquote <;> decide

theorem closing?_append {quote : Char} (hend : AtLineEnd tail) (hquote : IsQuote quote)
    (rest : List Char) :
    closing? quote (rest ++ tail) =
      (closing? quote rest).map fun (count, next) => (count, next ++ tail) := by
  have hhead := hend.head_ne hquote
  match rest with
  | [] => rcases tail with _ | ⟨a, _ | ⟨b, more⟩⟩ <;> simp_all [closing?]
  | [a] => cases tail <;> simp_all [closing?]
  | a :: b :: rest =>
      have hrun : (rest ++ tail).takeWhile (· = quote) = rest.takeWhile (· = quote) := by
        apply takeWhile_append hend <;> obtain rfl | rfl := hquote <;> decide
      have hlength := (List.takeWhile_prefix (· = quote) (l := rest)).length_le
      simp only [List.cons_append, closing?, hrun]
      split
      · generalize rest.takeWhile (· = quote) = run at hlength
        match run with
        | [] => rfl
        | [_] =>
            have hone : 1 ≤ rest.length := hlength
            rw [List.drop_append_of_le_length hone]
            rfl
        | _ :: _ :: _ =>
            have htwo : 2 ≤ rest.length := by
              simp at hlength
              omega
            rw [List.drop_append_of_le_length htwo]
            rfl
      · rfl

theorem finish?_append {quote : Char} (hend : AtLineEnd tail) (hquote : IsQuote quote)
    (tripled : Bool) (read rest : List Char) :
    finish? quote tripled read (rest ++ tail) =
      (finish? quote tripled read rest).map fun (content, next) => (content, next ++ tail) := by
  cases tripled with
  | false => rfl
  | true =>
      simp only [finish?, if_true, closing?_append hend hquote, Option.map_map]
      rfl

theorem ReadsOn.finish {quote : Char} (hend : AtLineEnd tail) (hquote : IsQuote quote)
    {tripled : Bool} {read rest : List Char}
    {alone inFront : StringResult} (hnext : ReadsOn tail alone inFront) :
    ReadsOn tail
      (match finish? quote tripled read rest with
        | some result => .ok result
        | none => alone)
      (match finish? quote tripled read (rest ++ tail) with
        | some result => .ok result
        | none => inFront) := by
  rw [finish?_append hend hquote]
  cases finish? quote tripled read rest with
  | none => exact hnext
  | some result => exact .ok

theorem blank_append {c : Char} {rest : List Char} (tail : List Char)
    (hblank : (isSpace c || breaks (c :: rest)) = true) :
    (isSpace c || breaks (c :: (rest ++ tail))) = true := by
  rw [Bool.or_eq_true] at hblank ⊢
  exact hblank.imp_right fun hbreaks => breaks_append hbreaks tail

theorem allowed_append {tripled : Bool} {c : Char} {rest : List Char} (tail : List Char)
    (hallowed : ¬(isForbidden c && !(tripled && breaks (c :: rest))) = true) :
    ¬(isForbidden c && !(tripled && breaks (c :: (rest ++ tail)))) = true := by
  simp only [Bool.and_eq_true, Bool.not_eq_true', not_and, Bool.not_eq_false] at hallowed ⊢
  intro hforbidden
  obtain ⟨htripled, hbreaks⟩ := hallowed hforbidden
  exact ⟨htripled, breaks_append hbreaks tail⟩

theorem readsOn_double (hend : AtLineEnd tail) (text : List Char) :
    (∀ tripled read,
      ReadsOn tail (basicFrom tripled read text) (basicFrom tripled read (text ++ tail))) ∧
    (∀ tripled read,
      ReadsOn tail (escapeFrom tripled read text) (escapeFrom tripled read (text ++ tail))) ∧
    (∀ tripled read missing value,
      ReadsOn tail (codeFrom tripled read missing value text)
        (codeFrom tripled read missing value (text ++ tail))) ∧
    ∀ tripled read broken,
      ReadsOn tail (joinFrom tripled read broken text)
        (joinFrom tripled read broken (text ++ tail)) := by
  induction text with
  | nil =>
      refine ⟨?_, ?_, ?_, ?_⟩ <;> intros <;>
        simp only [basicFrom, escapeFrom, codeFrom, joinFrom] <;> exact .error
  | cons c rest ih =>
      obtain ⟨hbasic, hescape, hcode, hjoin⟩ := ih
      refine ⟨?_, ?_, ?_, ?_⟩
      · intro tripled read
        simp only [List.cons_append, basicFrom]
        split
        · exact .finish hend (.inl rfl) (hbasic _ _)
        split
        · exact hescape _ _
        split
        · exact .error
        · rename_i hallowed
          rw [if_neg (allowed_append tail hallowed)]
          exact hbasic _ _
      · intro tripled read
        simp only [List.cons_append, escapeFrom]
        split
        · exact hbasic _ _
        split
        · exact hcode _ _ _ _
        split
        · rename_i hblank
          rw [Bool.and_eq_true] at hblank
          rw [if_pos (Bool.and_eq_true_iff.mpr ⟨hblank.1, blank_append tail hblank.2⟩)]
          exact hjoin _ _ _
        · exact .error
      · intro tripled read missing value
        simp only [List.cons_append, codeFrom]
        split
        · exact .error
        split
        · exact hcode _ _ _ _
        split
        · exact hbasic _ _
        · exact .error
      · intro tripled read broken
        simp only [List.cons_append, joinFrom]
        split
        · rename_i hblank
          rw [if_pos (blank_append tail hblank)]
          exact hjoin _ _ _
        rename_i hblank
        obtain hsame | rfl := breaks_append_or c rest tail
        · rw [hsame, if_neg hblank]
          split
          · exact .error
          split
          · exact .finish hend (.inl rfl) (hbasic _ _)
          split
          · exact hescape _ _
          split
          · exact .error
          · exact hbasic _ _
        · -- a lone carriage return is an error wherever it stands
          have hforbidden : isForbidden '\r' = true := by decide
          rw [if_neg (by decide : ¬ '\r' = '"'), if_neg (by decide : ¬ '\r' = '\\'),
            if_pos hforbidden]
          split <;> exact .error

theorem readsOn_literal (hend : AtLineEnd tail) (tripled : Bool)
    (read text : List Char) :
    ReadsOn tail (literalFrom tripled read text) (literalFrom tripled read (text ++ tail)) := by
  induction text generalizing read with
  | nil => exact .error
  | cons c rest ih =>
      simp only [List.cons_append, literalFrom]
      split
      · exact .finish hend (.inr rfl) (ih _)
      split
      · exact .error
      · rename_i hallowed
        rw [if_neg (allowed_append tail hallowed)]
        exact ih _

theorem lineString?_append (hend : AtLineEnd tail) (text : List Char) :
    (lineString? text = none ∧ lineString? (text ++ tail) = none) ∨
      ∃ alone inFront, lineString? text = some alone ∧
        lineString? (text ++ tail) = some inFront ∧ ReadsOn tail alone inFront := by
  match text with
  | [] =>
      have hdouble := hend.head_ne (.inl rfl)
      have hsingle := hend.head_ne (.inr rfl)
      exact .inl (by cases tail <;> simp_all [lineString?])
  | c :: rest =>
      by_cases hdouble : c = '"'
      · subst hdouble
        exact .inr ⟨_, _, rfl, rfl, (readsOn_double hend rest).1 _ _⟩
      by_cases hsingle : c = '\''
      · subst hsingle
        exact .inr ⟨_, _, rfl, rfl, readsOn_literal hend _ _ _⟩
      · exact .inl (by simp [lineString?, hdouble, hsingle])

def Tripled (quote : Char) (text : List Char) : Prop :=
  ∃ rest, text = quote :: quote :: quote :: rest

theorem tripled_append_iff {quote : Char} (hend : AtLineEnd tail) (hquote : IsQuote quote)
    (text : List Char) : Tripled quote (text ++ tail) ↔ Tripled quote text := by
  have hhead := hend.head_ne hquote
  constructor
  · rintro ⟨rest, hrest⟩
    match text with
    | [] | [_] | [_, _] => exact absurd rfl (hhead quote (by simp_all))
    | _ :: _ :: _ :: behind =>
        simp only [List.cons_append, List.cons.injEq] at hrest
        obtain ⟨rfl, rfl, rfl, -⟩ := hrest
        exact ⟨behind, rfl⟩
  · rintro ⟨rest, rfl⟩
    exact ⟨rest ++ tail, rfl⟩

theorem string?_of_not_tripled {text : List Char} (hdouble : ¬Tripled '"' text)
    (hsingle : ¬Tripled '\'' text) : string? text = lineString? text := by
  rw [string?]
  · rintro rest rfl
    exact hdouble ⟨rest, rfl⟩
  · rintro rest rfl
    exact hsingle ⟨rest, rfl⟩

/-- The break that is skipped behind three marks is not one of the tail, for then the string
would not end in front of it. -/
theorem readsOn_skipFirstBreak {read : List Char → StringResult}
    (hread : ∀ text, ReadsOn tail (read text) (read (text ++ tail)))
    (hnil : ∃ fault, read [] = .error fault)
    (hcarriage : ∀ rest, breaks ('\r' :: rest) = false →
      ∃ fault, read ('\r' :: rest) = .error fault) (text : List Char) :
    ReadsOn tail (read (skipFirstBreak text)) (read (skipFirstBreak (text ++ tail))) := by
  cases hbreak : lineBreak? text with
  | some next =>
      simp only [skipFirstBreak, hbreak, lineBreak?_append hbreak, Option.getD_some]
      exact hread next
  | none =>
      simp only [skipFirstBreak, hbreak, Option.getD_none]
      match text with
      | [] => exact .of_error hnil
      | c :: rest =>
          rw [lineBreak?_eq_none_iff] at hbreak
          obtain hsame | rfl := breaks_append_or c rest tail
          · rw [hbreak, ← List.cons_append, ← lineBreak?_eq_none_iff] at hsame
            rw [hsame, Option.getD_none]
            exact hread (c :: rest)
          · exact .of_error (hcarriage rest hbreak)

theorem string?_append (hend : AtLineEnd tail) (text : List Char) :
    (string? text = none ∧ string? (text ++ tail) = none) ∨
      ∃ alone inFront, string? text = some alone ∧
        string? (text ++ tail) = some inFront ∧ ReadsOn tail alone inFront := by
  have hforbidden : isForbidden '\r' = true := by decide
  by_cases hdouble : Tripled '"' text
  · obtain ⟨rest, rfl⟩ := hdouble
    refine .inr ⟨_, _, rfl, rfl, readsOn_skipFirstBreak ?_ ⟨_, rfl⟩ ?_ rest⟩
    · exact fun text => (readsOn_double hend text).1 true []
    · intro rest hbreak
      exact ⟨.forbiddenCharacter '\r', by simp [basicFrom, hbreak, hforbidden]⟩
  by_cases hsingle : Tripled '\'' text
  · obtain ⟨rest, rfl⟩ := hsingle
    refine .inr ⟨_, _, rfl, rfl, readsOn_skipFirstBreak ?_ ⟨_, rfl⟩ ?_ rest⟩
    · exact readsOn_literal hend true []
    · intro rest hbreak
      exact ⟨.forbiddenCharacter '\r', by simp [literalFrom, hbreak, hforbidden]⟩
  · rw [string?_of_not_tripled hdouble hsingle,
      string?_of_not_tripled (mt (tripled_append_iff hend (.inl rfl) text).mp hdouble)
        (mt (tripled_append_iff hend (.inr rfl) text).mp hsingle)]
    exact lineString?_append hend text

end Document

end SegmentBench
