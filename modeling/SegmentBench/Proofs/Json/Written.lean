import SegmentBench.Proofs.Json.Reader

/-!
# JSON as it is written

The reader on texts of the simplest form: numbers, strings without escapes, and items in
lines of their own.  A number ends where what follows cannot belong to one.
-/

namespace SegmentBench.Json

open Document (ne_of_satisfies)

variable {text rest body digits fraction : List Char} {exponent : Int} {c : Char}

/-! ## Numbers -/

def isNumberPart (c : Char) : Bool :=
  Numeral.isDecimal c || c = '.' || c = 'e' || c = 'E'

def Ends (rest : List Char) : Prop := ∀ c ∈ rest.head?, isNumberPart c = false

theorem Ends.head?_ne (hends : Ends rest) (hc : isNumberPart c = true) : rest.head? ≠ some c :=
  fun hhead => ne_of_satisfies hc (hends c hhead) rfl

theorem Ends.not_decimal (hends : Ends rest) : ∀ c ∈ rest.head?, Numeral.isDecimal c = false := by
  intro c hhead
  have hpart := hends c hhead
  simp only [isNumberPart, Bool.or_eq_false_iff] at hpart
  exact hpart.1.1.1

theorem digits?_append (hnonempty : digits ≠ [])
    (hdecimal : ∀ c ∈ digits, Numeral.isDecimal c = true)
    (hrest : ∀ c ∈ rest.head?, Numeral.isDecimal c = false) :
    digits? (digits ++ rest) = some (digits, rest) := by
  have htake : rest.takeWhile Numeral.isDecimal = [] := by
    cases rest with
    | nil => rfl
    | cons c rest => rw [List.takeWhile_cons_of_neg (by simp [hrest c rfl])]
  have hdrop : rest.dropWhile Numeral.isDecimal = rest := by
    cases rest with
    | nil => rfl
    | cons c rest => rw [List.dropWhile_cons_of_neg (by simp [hrest c rfl])]
  obtain ⟨first, others, rfl⟩ := List.exists_cons_of_ne_nil hnonempty
  simp only [digits?, List.takeWhile_append_of_pos hdecimal, htake, List.append_nil,
    List.dropWhile_append_of_pos hdecimal, hdrop]

theorem fraction?_append (hbody : SpellsFraction fraction body)
    (hdecimal : ∀ c ∈ rest.head?, Numeral.isDecimal c = false)
    (hpoint : rest.head? ≠ some '.') :
    fraction? (body ++ rest) = some (fraction, rest) := by
  cases hbody with
  | absent =>
      rw [List.nil_append, fraction?]
      rintro behind rfl
      exact hpoint rfl
  | present hnonempty hall => exact digits?_append hnonempty hall hdecimal

theorem exponentSign_append {sign : List Char} {negative : Bool}
    (hsign : (sign, negative) ∈ exponentSigns) (hplus : text.head? ≠ some '+')
    (hminus : text.head? ≠ some '-') : exponentSign (sign ++ text) = (negative, text) := by
  simp only [exponentSigns, List.mem_cons, Prod.mk.injEq, List.not_mem_nil, or_false] at hsign
  obtain ⟨rfl, rfl⟩ | ⟨rfl, rfl⟩ | ⟨rfl, rfl⟩ := hsign
  · rw [List.nil_append, exponentSign]
    · rintro behind rfl
      exact hplus rfl
    · rintro behind rfl
      exact hminus rfl
  · rfl
  · rfl

theorem head?_digits_append_ne (hnonempty : digits ≠ [])
    (hdecimal : ∀ c ∈ digits, Numeral.isDecimal c = true) (hc : Numeral.isDecimal c = false) :
    (digits ++ rest).head? ≠ some c := by
  obtain ⟨first, others, rfl⟩ := List.exists_cons_of_ne_nil hnonempty
  intro hhead
  exact ne_of_satisfies (hdecimal first List.mem_cons_self) hc (Option.some.inj hhead)

theorem exponent?_append (hbody : SpellsExponent exponent body) (hends : Ends rest) :
    exponent? (body ++ rest) = some (exponent, rest) := by
  cases hbody with
  | absent =>
      cases rest with
      | nil => rfl
      | cons c rest =>
          have hletter : ¬(c = 'e' ∨ c = 'E') := by
            rintro (rfl | rfl)
            · exact hends.head?_ne (by decide) rfl
            · exact hends.head?_ne (by decide) rfl
          rw [List.nil_append, exponent?, if_neg hletter]
  | @present letter sign digits negative hletter hsign hnonempty hdecimal =>
      have hsign : exponentSign (sign ++ (digits ++ rest)) = (negative, digits ++ rest) :=
        exponentSign_append hsign (head?_digits_append_ne hnonempty hdecimal (by decide))
          (head?_digits_append_ne hnonempty hdecimal (by decide))
      rw [List.cons_append, List.cons_append, exponent?, if_pos hletter, List.append_assoc, hsign,
        digits?_append hnonempty hdecimal hends.not_decimal]
      rfl

theorem splitMinus_append {negative : Bool} (hminus : text.head? ≠ some '-') :
    splitMinus (minus negative ++ text) = (negative, text) := by
  cases negative with
  | false =>
      rw [minus, if_neg (by decide), List.nil_append, splitMinus]
      rintro behind rfl
      exact hminus rfl
  | true => rfl

theorem SpellsExponent.head?_append (hbody : SpellsExponent exponent body) (hends : Ends rest) :
    ∀ c ∈ (body ++ rest).head?, Numeral.isDecimal c = false ∧ c ≠ '.' := by
  intro c hhead
  cases hbody with
  | absent => exact ⟨hends.not_decimal c hhead, fun hpoint => hends.head?_ne rfl (hpoint ▸ hhead)⟩
  | present hletter _ _ _ =>
      cases hhead
      obtain rfl | rfl := hletter <;> decide

theorem SpellsFraction.head?_append (hbody : SpellsFraction fraction body)
    (hrest : ∀ c ∈ rest.head?, Numeral.isDecimal c = false) :
    ∀ c ∈ (body ++ rest).head?, Numeral.isDecimal c = false := by
  intro c hhead
  cases hbody with
  | absent => exact hrest c hhead
  | present _ _ =>
      cases hhead
      decide

theorem number?_append {negative : Bool} {value : Decimal}
    (hnumber : SpellsNumber negative value text) (hends : Ends rest) :
    number? (text ++ rest) = some (.number negative value, rest) := by
  cases hnumber with
  | @parts whole fraction fractionText exponentText exponent hnumeral hfraction hexponent =>
      have hbehind := hexponent.head?_append hends
      have hdecimal : ∀ c ∈ (exponentText ++ rest).head?, Numeral.isDecimal c = false :=
        fun c hhead => (hbehind c hhead).1
      have hpoint : (exponentText ++ rest).head? ≠ some '.' := fun hhead => (hbehind _ hhead).2 rfl
      have hminus : (whole ++ (fractionText ++ (exponentText ++ rest))).head? ≠ some '-' :=
        head?_digits_append_ne hnumeral.nonempty hnumeral.decimal (by decide)
      have hlead : ¬(whole.head? = some '0' ∧ whole.length ≠ 1) := fun hshort =>
        hshort.2 (hnumeral.short hshort.1)
      have hwhole := digits?_append hnumeral.nonempty hnumeral.decimal
        (hfraction.head?_append hdecimal)
      simp only [number?, List.append_assoc, splitMinus_append hminus, hwhole,
        fraction?_append hfraction hdecimal hpoint, exponent?_append hexponent hends,
        Option.bind_eq_bind, Option.bind_some, if_neg hlead]

theorem SpellsNumber.notMem {negative : Bool} {value : Decimal}
    (hnumber : SpellsNumber negative value text) (hdecimal : Numeral.isDecimal c = false)
    (hmarks : c ∉ ['-', '+', '.', 'e', 'E']) : c ∉ text := by
  have hdigits : ∀ digits : List Char, (∀ d ∈ digits, Numeral.isDecimal d = true) → c ∉ digits :=
    fun digits hall hmem => ne_of_satisfies (hall c hmem) hdecimal rfl
  simp only [List.mem_cons, List.not_mem_nil, or_false, not_or] at hmarks
  cases hnumber with
  | @parts whole fraction fractionText exponentText _ hnumeral hfraction hexponent =>
      have hminus : c ∉ minus negative := by cases negative <;> simp [minus, hmarks]
      have hfraction : c ∉ fractionText := by
        cases hfraction with
        | absent => exact List.not_mem_nil
        | present _ hall => simp [hmarks, hdigits _ hall]
      have hexponent : c ∉ exponentText := by
        cases hexponent with
        | absent => exact List.not_mem_nil
        | @present letter sign digits _ hletter hsign _ hall =>
            have hsign : c ∉ sign := by
              simp only [exponentSigns, List.mem_cons, Prod.mk.injEq, List.not_mem_nil,
                or_false] at hsign
              rcases hsign with ⟨rfl, -⟩ | ⟨rfl, -⟩ | ⟨rfl, -⟩ <;> simp [hmarks]
            have hletter : c ≠ letter := by rcases hletter with rfl | rfl <;> simp [hmarks]
            simp [hletter, hsign, hdigits _ hall]
      simp [hminus, hdigits _ hnumeral.decimal, hfraction, hexponent]

/-! ## Strings -/

theorem character?_plain (hplain : isPlain c = true) : character? (c :: rest) = some (c, rest) := by
  have hbackslash : c ≠ '\\' := ne_of_satisfies hplain (by decide)
  rw [character?, if_neg hbackslash, if_pos hplain]

theorem characters?_plain {fuel : Nat} (hplain : ∀ c ∈ text, isPlain c = true)
    (hfuel : text.length < fuel) :
    characters? fuel (text ++ '"' :: rest) = some (text, rest) := by
  induction text generalizing fuel with
  | nil =>
      obtain ⟨fuel, rfl⟩ := Nat.exists_eq_succ_of_ne_zero (Nat.ne_of_gt hfuel)
      rfl
  | cons c text ih =>
      obtain ⟨fuel, rfl⟩ := Nat.exists_eq_succ_of_ne_zero (Nat.ne_zero_of_lt hfuel)
      obtain ⟨hc, hothers⟩ := List.forall_mem_cons.mp hplain
      have hquote : c ≠ '"' := ne_of_satisfies hc (by decide)
      simp only [List.cons_append, characters?, if_neg hquote, character?_plain hc,
        Option.bind_eq_bind, Option.bind_some, ih hothers (Nat.lt_of_succ_lt_succ hfuel)]

theorem string?_plain {content : String} (hplain : ∀ c ∈ content.toList, isPlain c = true)
    (rest : List Char) :
    string? ('"' :: content.toList ++ '"' :: rest) = some (content, rest) := by
  rw [List.cons_append, string?, characters?_plain hplain (by simp)]
  simp

/-! ## Items in lines -/

section

variable {α : Type} {read : List Char → Option (α × List Char)} {item : α} {items : List α}
  {close : Char}

/-- A text that is read as an item whatever follows, as long as that is no more of it. -/
structure Reads (read : List Char → Option (α × List Char)) (item : α) (body : List Char) :
    Prop where
  start : ∃ first text, body = first :: text ∧ first ∉ [' ', '\t', '\n', '\r', ']', '\x7d']
  whole : ∀ rest, Ends rest → read (body ++ rest) = some (item, rest)

theorem skip_append {space : List Char} (hspace : IsSpace space)
    (hrest : ∀ c ∈ rest.head?, isSpace c = false) : skip (space ++ rest) = rest := by
  rw [skip, List.dropWhile_append_of_pos hspace]
  cases rest with
  | nil => rfl
  | cons c rest => rw [List.dropWhile_cons_of_neg (by simp [hrest c rfl])]

theorem ends_append {space : List Char} (hspace : IsSpace space) (hc : isNumberPart c = false) :
    Ends (space ++ c :: rest) := by
  intro d hhead
  cases space with
  | nil =>
      cases hhead
      exact hc
  | cons e space =>
      cases hhead
      have hd := hspace d List.mem_cons_self
      simp only [isSpace, Bool.or_eq_true, decide_eq_true_eq] at hd
      obtain ((rfl | rfl) | rfl) | rfl := hd <;> decide

theorem Reads.skip_append (hreads : Reads read item body) {space : List Char}
    (hspace : IsSpace space) : skip (space ++ (body ++ rest)) = body ++ rest := by
  obtain ⟨first, text, rfl, hfirst⟩ := hreads.start
  refine Json.skip_append hspace fun c hhead => ?_
  cases hhead
  simp only [List.mem_cons, not_or] at hfirst
  simp [isSpace, hfirst]

theorem items?_append (hclose : close = ']' ∨ close = '\x7d')
    (hitems : Separated (Reads read) items text) {fuel : Nat} (hfuel : items.length ≤ fuel) :
    items? read close fuel (text ++ close :: rest) = some (items, rest) := by
  have hpart : isNumberPart close = false := by obtain rfl | rfl := hclose <;> decide
  have hspace : isSpace close = false := by obtain rfl | rfl := hclose <;> decide
  have hcomma : ',' ≠ close := by obtain rfl | rfl := hclose <;> decide
  induction hitems generalizing fuel with
  | @last item before body behind hbefore hbody hbehind =>
      obtain ⟨fuel, rfl⟩ := Nat.exists_eq_succ_of_ne_zero (Nat.ne_zero_of_lt hfuel)
      have hlast : skip (behind ++ close :: rest) = close :: rest :=
        skip_append hbehind fun c hhead => by cases hhead; exact hspace
      simp only [items?, List.append_assoc, hbody.skip_append hbefore,
        hbody.whole _ (ends_append hbehind hpart), Option.bind_eq_bind, Option.bind_some, hlast,
        if_pos]
  | @more item items before body behind text hbefore hbody hbehind _ ih =>
      obtain ⟨fuel, rfl⟩ := Nat.exists_eq_succ_of_ne_zero (Nat.ne_zero_of_lt hfuel)
      have hmore : skip (behind ++ ',' :: (text ++ close :: rest)) =
          ',' :: (text ++ close :: rest) :=
        skip_append hbehind fun c hhead => by cases hhead; decide
      simp only [items?, List.append_assoc, List.cons_append, hbody.skip_append hbefore,
        hbody.whole _ (ends_append hbehind (c := ',') (by decide)), Option.bind_eq_bind,
        Option.bind_some, hmore, if_neg hcomma, ih (Nat.le_of_succ_le_succ hfuel), if_pos]

theorem Separated.length_le (hitems : Separated (Reads read) items text) :
    items.length ≤ text.length := by
  induction hitems with
  | last _ hbody _ =>
      obtain ⟨first, text, rfl, -⟩ := hbody.start
      simp
      omega
  | more _ hbody _ _ ih =>
      simp
      omega

theorem Separated.head?_skip (hitems : Separated (Reads read) items text) :
    ∃ first ∉ [']', '\x7d'], (skip (text ++ rest)).head? = some first := by
  cases hitems with
  | last hbefore hbody _ =>
      obtain ⟨first, others, rfl, hfirst⟩ := hbody.start
      simp only [List.append_assoc, hbody.skip_append hbefore]
      exact ⟨first, by simp_all, rfl⟩
  | more hbefore hbody _ _ =>
      obtain ⟨first, others, rfl, hfirst⟩ := hbody.start
      simp only [List.append_assoc, hbody.skip_append hbefore]
      exact ⟨first, by simp_all, rfl⟩

theorem list?_append (hclose : close = ']' ∨ close = '\x7d')
    (hitems : Separated (Reads read) items text) :
    list? read close (text ++ close :: rest) = some (items, rest) := by
  have hfuel : items.length ≤ (text ++ close :: rest).length := by
    have hlength := hitems.length_le
    simp
    omega
  have hhead : (skip (text ++ close :: rest)).head? ≠ some close := by
    obtain ⟨first, hfirst, hhead⟩ := hitems.head?_skip
    rintro heq
    cases hhead.symm.trans heq
    obtain rfl | rfl := hclose <;> simp at hfirst
  rw [list?, if_neg hhead, items?_append hclose hitems hfuel]

theorem separated_lines {texts : List (α × List Char)} (hnonempty : texts ≠ [])
    (hreads : ∀ text ∈ texts, Reads read text.1 text.2) :
    Separated (Reads read) (texts.map Prod.fst)
      ('\n' :: [',', '\n'].intercalate (texts.map fun text => ' ' :: ' ' :: text.2) ++ ['\n']) := by
  induction texts with
  | nil => exact absurd rfl hnonempty
  | cons text texts ih =>
      obtain ⟨hfirst, hothers⟩ := List.forall_mem_cons.mp hreads
      have hbefore : IsSpace ['\n', ' ', ' '] := by simp [IsSpace, isSpace]
      cases texts with
      | nil =>
          have hspace : IsSpace ['\n'] := by simp [IsSpace, isSpace]
          have hlast := Separated.last hbefore hfirst hspace
          simpa using hlast
      | cons next texts =>
          have hmore := Separated.more hbefore hfirst (show IsSpace [] by simp [IsSpace])
            (ih (List.cons_ne_nil _ _) hothers)
          simpa [List.intercalate_cons_of_ne_nil] using hmore

end

/-! ## Values -/

theorem reads_member {α : Type} {read : List Char → Option (α × List Char)} {name : String}
    {value : α} (hname : ∀ c ∈ name.toList, isPlain c = true) (hvalue : Reads read value body) :
    Reads (member? read) (name, value)
      ('"' :: name.toList ++ '"' :: ':' :: ' ' :: body) where
  start := ⟨'"', _, rfl, by decide⟩
  whole := by
    intro rest hends
    have hspace : IsSpace [' '] := by simp [IsSpace, isSpace]
    have hskip : skip (' ' :: (body ++ rest)) = body ++ rest := hvalue.skip_append hspace
    have hcolon : skip (':' :: ' ' :: (body ++ rest)) = ':' :: ' ' :: (body ++ rest) := rfl
    have hstring := string?_plain hname (':' :: ' ' :: (body ++ rest))
    simp only [List.cons_append, List.append_assoc] at hstring ⊢
    simp only [member?, hstring, Option.bind_eq_bind, Option.bind_some, colon?, hcolon, hskip,
      hvalue.whole _ hends]

theorem reads_null (fuel : Nat) : Reads (value? (fuel + 1)) .null "null".toList :=
  ⟨⟨'n', _, rfl, by decide⟩, fun _ _ => rfl⟩

theorem reads_string {content : String} (hplain : ∀ c ∈ content.toList, isPlain c = true)
    (fuel : Nat) :
    Reads (value? (fuel + 1)) (.string content) ('"' :: content.toList ++ ['"']) where
  start := ⟨'"', _, rfl, by decide⟩
  whole := by
    intro rest hends
    have hstring := string?_plain hplain rest
    simp only [List.cons_append, List.append_assoc, List.nil_append] at hstring ⊢
    simp only [value?, hstring, Option.map_some]

theorem SpellsNumber.exists_cons {negative : Bool} {value : Decimal}
    (hnumber : SpellsNumber negative value text) :
    ∃ first others, text = first :: others ∧ (first = '-' ∨ Numeral.isDecimal first = true) := by
  cases hnumber with
  | parts hnumeral _ _ =>
      obtain ⟨first, others, rfl⟩ := List.exists_cons_of_ne_nil hnumeral.nonempty
      cases negative with
      | false => exact ⟨first, _, rfl, .inr (hnumeral.decimal first List.mem_cons_self)⟩
      | true => exact ⟨'-', _, rfl, .inl rfl⟩

theorem reads_number {negative : Bool} {value : Decimal}
    (hnumber : SpellsNumber negative value text) (fuel : Nat) :
    Reads (value? (fuel + 1)) (.number negative value) text := by
  obtain ⟨first, others, rfl, hfirst⟩ := hnumber.exists_cons
  have hne : ∀ d, d ≠ '-' → Numeral.isDecimal d = false → first ≠ d := by
    rintro d hminus hd rfl
    obtain rfl | hdecimal := hfirst
    · exact hminus rfl
    · exact ne_of_satisfies hdecimal hd rfl
  have hstart : ∀ d ∈ [' ', '\t', '\n', '\r', ']', '\x7d'],
      d ≠ '-' ∧ Numeral.isDecimal d = false := by decide
  refine ⟨⟨first, others, rfl, fun hmem => ?_⟩, fun rest hends => ?_⟩
  · exact hne first (hstart first hmem).1 (hstart first hmem).2 rfl
  · rw [value?, number?_append hnumber hends]
    all_goals
      intro behind heq
      exact hne _ (by decide) (by decide) (List.cons.inj heq).1

theorem value?_object {members : List (String × Json)} {fuel : Nat}
    (hmembers : Separated (Reads (member? (value? fuel))) members text) :
    value? (fuel + 1) ('\x7b' :: (text ++ '\x7d' :: rest)) = some (.object members, rest) := by
  rw [value?, list?_append (.inr rfl) hmembers]
  rfl

theorem read?_object {members : List (String × Json)}
    (hmembers : ∀ fuel, Separated (Reads (member? (value? (fuel + 1)))) members text) :
    read? ('\x7b' :: text ++ ['\x7d']) = some (.object members) := by
  have hskip : skip ('\x7b' :: text ++ ['\x7d']) = '\x7b' :: (text ++ ['\x7d']) := rfl
  have hlength : ('\x7b' :: text ++ ['\x7d']).length = text.length + 1 + 1 := by simp
  rw [read?, hskip, hlength, value?_object (hmembers _)]
  rfl

end SegmentBench.Json
