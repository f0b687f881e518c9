import SegmentBench.Proofs.Text.Numerals
import SegmentBench.Proofs.Text.Words

/-!
# Decimal integers

A word spells an integer when it is one decimal digit or more behind a sign or none.  The
reader of signed words reads exactly the words that spell an integer in their range, with as
many leading zeros as there are.
-/

namespace SegmentBench.Numeral

/-! ## The grammar -/

structure AllDigits (text : List Char) : Prop where
  nonempty : text ≠ []
  decimal : ∀ c ∈ text, c.isDigit = true

/-- The number is exact, however many digits there are. -/
inductive Spells : List Char → Int → Prop where
  | plain {text : List Char} (digits : AllDigits text) : Spells text (Nat.ofDigitChars 10 text 0)
  | plus {text : List Char} (digits : AllDigits text) :
      Spells ('+' :: text) (Nat.ofDigitChars 10 text 0)
  | minus {text : List Char} (digits : AllDigits text) :
      Spells ('-' :: text) (-(Nat.ofDigitChars 10 text 0 : Int))

variable {text : List Char} {number : Int}

theorem not_allDigits_nil : ¬AllDigits [] := fun hdigits => hdigits.nonempty rfl

theorem AllDigits.notMem {c : Char} (hdigits : AllDigits text) (hc : c.isDigit = false) :
    c ∉ text := fun hmem => by
  rw [hdigits.decimal c hmem] at hc
  cases hc

theorem AllDigits.head?_ne {sign : Char} (hdigits : AllDigits text)
    (hsign : sign.isDigit = false) : text.head? ≠ some sign := by
  intro hhead
  have hdecimal := hdigits.decimal sign (List.mem_of_head? hhead)
  rw [hsign] at hdecimal
  cases hdecimal

theorem spells_plus_iff : Spells ('+' :: text) number ↔
    AllDigits text ∧ number = Nat.ofDigitChars 10 text 0 := by
  constructor
  · intro hspells
    cases hspells with
    | plain digits => exact absurd rfl (digits.head?_ne (by decide))
    | plus digits => exact ⟨digits, rfl⟩
  · rintro ⟨hdigits, rfl⟩
    exact .plus hdigits

theorem spells_minus_iff : Spells ('-' :: text) number ↔
    AllDigits text ∧ number = -(Nat.ofDigitChars 10 text 0 : Int) := by
  constructor
  · intro hspells
    cases hspells with
    | plain digits => exact absurd rfl (digits.head?_ne (by decide))
    | minus digits => exact ⟨digits, rfl⟩
  · rintro ⟨hdigits, rfl⟩
    exact .minus hdigits

theorem spells_plain_iff (hplus : text.head? ≠ some '+') (hminus : text.head? ≠ some '-') :
    Spells text number ↔ AllDigits text ∧ number = Nat.ofDigitChars 10 text 0 := by
  constructor
  · intro hspells
    cases hspells with
    | plain digits => exact ⟨digits, rfl⟩
    | plus digits => exact absurd rfl hplus
    | minus digits => exact absurd rfl hminus
  · rintro ⟨hdigits, rfl⟩
    exact .plain hdigits

/-! ## The reader -/

theorem digit?_ten (c : Char) :
    digit? 10 c = if c.isDigit = true then some (c.toNat - 48) else none := by
  by_cases hdigit : c.isDigit = true
  · obtain ⟨hlow, hhigh⟩ := Char.isDigit_iff_toNat.mp hdigit
    have hrange : '0' ≤ c ∧ c ≤ '9' := ⟨hlow, hhigh⟩
    have hsmall : c.toNat - 48 < 10 := by
      have : c.toNat ≤ 57 := hhigh
      omega
    rw [digit?, if_pos hrange, if_pos hdigit]
    simp [Option.filter, hsmall]
  · rw [if_neg hdigit]
    by_contra hsome
    have hdecimal : isDecimal c = true := Option.isSome_iff_ne_none.mpr hsome
    have hall : ∀ d ∈ "0123456789".toList, d.isDigit = true := by decide
    exact hdigit (hall c (mem_of_isDecimal hdecimal))

theorem le_ofDigitChars (text : List Char) (value : Nat) :
    value ≤ Nat.ofDigitChars 10 text value := by
  have hpower : 0 < 10 ^ text.length := Nat.pow_pos (by decide)
  have hscaled := Nat.le_mul_of_pos_left value hpower
  rw [Nat.ofDigitChars_eq_ofDigitChars_zero]
  omega

theorem magnitude_eq_ok_iff {limit value result : Nat} {beyond : Fault} (hvalue : value ≤ limit) :
    magnitude limit beyond value text = .ok result ↔
      (∀ c ∈ text, c.isDigit = true) ∧ Nat.ofDigitChars 10 text value = result ∧
        result ≤ limit := by
  induction text generalizing value with
  | nil =>
      simp only [magnitude, Except.ok.injEq, List.not_mem_nil, false_implies, implies_true,
        true_and, Nat.ofDigitChars_nil]
      constructor
      · rintro rfl
        exact ⟨rfl, hvalue⟩
      · exact And.left
  | cons c rest ih =>
      rw [magnitude, digit?_ten, Nat.ofDigitChars_cons, List.forall_mem_cons, Nat.mul_comm 10]
      by_cases hdigit : c.isDigit = true
      · simp only [if_pos hdigit]
        by_cases hover : limit < value * 10 + (c.toNat - 48)
        · have hlarge := le_ofDigitChars rest (value * 10 + (c.toNat - 48))
          simp only [if_pos hover]
          constructor
          · intro hread
            cases hread
          · rintro ⟨-, rfl, hle⟩
            exact absurd (Nat.lt_of_lt_of_le hover (hlarge.trans hle)) (Nat.lt_irrefl _)
        · simp only [if_neg hover, ih (Nat.not_lt.mp hover), hdigit, true_and]
          rfl
      · simp [hdigit]

theorem map_magnitude_eq_ok_iff {limit : Nat} {beyond : Fault} {signed : Nat → Int}
    {value : Int32} (htext : text ≠ [])
    (hlimit : ∀ result, result ≤ limit ↔ -2 ^ 31 ≤ signed result ∧ signed result < 2 ^ 31) :
    (magnitude limit beyond 0 text).map (fun result : Nat => Int32.ofInt (signed result)) =
        .ok value ↔
      AllDigits text ∧ value.toInt = signed (Nat.ofDigitChars 10 text 0) := by
  constructor
  · intro hread
    cases hmagnitude : magnitude limit beyond 0 text with
    | error fault =>
        rw [hmagnitude] at hread
        cases hread
    | ok result =>
        rw [hmagnitude] at hread
        cases hread
        obtain ⟨hdecimal, rfl, hle⟩ := (magnitude_eq_ok_iff (Nat.zero_le limit)).mp hmagnitude
        obtain ⟨hlow, hhigh⟩ := (hlimit _).mp hle
        exact ⟨⟨htext, hdecimal⟩, Int32.toInt_ofInt_of_le hlow hhigh⟩
  · rintro ⟨hdigits, hvalue⟩
    have hle : Nat.ofDigitChars 10 text 0 ≤ limit := by
      rw [hlimit, ← hvalue]
      exact ⟨value.le_toInt, value.toInt_lt⟩
    have hmagnitude : magnitude limit beyond 0 text = .ok (Nat.ofDigitChars 10 text 0) :=
      (magnitude_eq_ok_iff (Nat.zero_le limit)).mpr ⟨hdigits.decimal, rfl, hle⟩
    rw [hmagnitude, Except.map, ← hvalue, Int32.ofInt_toInt]

theorem readInt32_minus (htext : text ≠ []) :
    readInt32 ('-' :: text) = (magnitude (greatestInt32 + 1) .tooSmall 0 text).map
      fun result : Nat => Int32.ofInt (-result) := by
  cases text with
  | nil => exact absurd rfl htext
  | cons c text =>
      simp only [readInt32]
      cases magnitude (greatestInt32 + 1) .tooSmall 0 (c :: text) <;> rfl

theorem readInt32_plus (htext : text ≠ []) :
    readInt32 ('+' :: text) = (magnitude greatestInt32 .tooLarge 0 text).map
      fun result : Nat => Int32.ofInt result := by
  cases text with
  | nil => exact absurd rfl htext
  | cons c text =>
      simp only [Int32.ofInt_eq_ofNat]
      rfl

theorem readInt32_plain (htext : text ≠ []) (hplus : text.head? ≠ some '+')
    (hminus : text.head? ≠ some '-') :
    readInt32 text = (magnitude greatestInt32 .tooLarge 0 text).map
      fun result : Nat => Int32.ofInt result := by
  simp only [Int32.ofInt_eq_ofNat]
  rw [readInt32]
  · exact htext
  · rintro rfl
    exact hplus rfl
  · rintro rfl
    exact hminus rfl
  · rintro rest rfl
    exact hminus rfl
  · rintro rest rfl
    exact hplus rfl

/-- The reader accepts the words that spell an integer in range, as that integer. -/
theorem readInt32_eq_ok_iff {value : Int32} :
    readInt32 text = .ok value ↔ Spells text value.toInt := by
  have hplain : ∀ result : Nat, result ≤ greatestInt32 ↔
      -2 ^ 31 ≤ (result : Int) ∧ (result : Int) < 2 ^ 31 := by
    intro result
    rw [greatestInt32]
    omega
  have hnegated : ∀ result : Nat, result ≤ greatestInt32 + 1 ↔
      -2 ^ 31 ≤ -(result : Int) ∧ -(result : Int) < 2 ^ 31 := by
    intro result
    rw [greatestInt32]
    omega
  cases text with
  | nil =>
      rw [spells_plain_iff (by simp) (by simp)]
      simp [readInt32, not_allDigits_nil]
  | cons c rest =>
      by_cases hsigned : c = '-' ∨ c = '+'
      · by_cases hrest : rest = []
        · rcases hsigned with rfl | rfl <;>
            simp [readInt32, hrest, spells_minus_iff, spells_plus_iff, not_allDigits_nil]
        · rcases hsigned with rfl | rfl
          · rw [readInt32_minus hrest, map_magnitude_eq_ok_iff hrest hnegated, spells_minus_iff]
          · rw [readInt32_plus hrest, map_magnitude_eq_ok_iff hrest hplain, spells_plus_iff]
      · obtain ⟨hminus, hplus⟩ := not_or.mp hsigned
        have htext : c :: rest ≠ [] := List.cons_ne_nil c rest
        have hplus_head : (c :: rest).head? ≠ some '+' := by simpa using hplus
        have hminus_head : (c :: rest).head? ≠ some '-' := by simpa using hminus
        rw [readInt32_plain htext hplus_head hminus_head, map_magnitude_eq_ok_iff htext hplain,
          spells_plain_iff hplus_head hminus_head]

theorem exists_readInt32_iff :
    (∃ value, readInt32 text = .ok value ∧ value.toInt = number) ↔
      Spells text number ∧ -2 ^ 31 ≤ number ∧ number ≤ 2 ^ 31 - 1 := by
  constructor
  · rintro ⟨value, hread, rfl⟩
    exact ⟨readInt32_eq_ok_iff.mp hread, value.le_toInt, Int.le_sub_one_of_lt value.toInt_lt⟩
  · rintro ⟨hspells, hlow, hhigh⟩
    have hnumber : (Int32.ofInt number).toInt = number :=
      Int32.toInt_ofInt_of_le hlow (Int.lt_of_le_sub_one hhigh)
    refine ⟨Int32.ofInt number, ?_, hnumber⟩
    rw [readInt32_eq_ok_iff, hnumber]
    exact hspells

theorem exists_readInt32_error_iff :
    (∃ fault, readInt32 text = .error fault) ↔
      ∀ number, Spells text number → ¬(-2 ^ 31 ≤ number ∧ number ≤ 2 ^ 31 - 1) := by
  constructor
  · rintro ⟨fault, hread⟩ number hspells hrange
    obtain ⟨value, hvalue, -⟩ := exists_readInt32_iff.mpr ⟨hspells, hrange⟩
    cases hread.symm.trans hvalue
  · intro hnone
    cases hread : readInt32 text with
    | error fault => exact ⟨fault, rfl⟩
    | ok value =>
        obtain ⟨hspells, hrange⟩ := exists_readInt32_iff.mp ⟨value, hread, rfl⟩
        exact absurd hrange (hnone _ hspells)

/-! ## As words -/

theorem isDecimal_iff {c : Char} : isDecimal c = true ↔ c.isDigit = true := by
  rw [isDecimal, isDigit, digit?_ten]
  split <;> simp_all

theorem isBlank_of_isDecimal {c : Char} (hdecimal : isDecimal c = true) :
    isBlank c = false := by
  have hdigits : ∀ d ∈ "0123456789".toList, isBlank d = false := by decide
  exact hdigits c (mem_of_isDecimal hdecimal)

theorem AllDigits.singleWord (hdigits : AllDigits text) : SingleWord text where
  nonempty := hdigits.nonempty
  unbroken := fun c hmem =>
    isBlank_of_isDecimal (isDecimal_iff.mpr (hdigits.decimal c hmem))

theorem Spells.singleWord (hspells : Spells text number) : SingleWord text := by
  cases hspells with
  | plain digits => exact digits.singleWord
  | plus digits => exact .cons (by decide) digits.singleWord
  | minus digits => exact .cons (by decide) digits.singleWord

theorem allDigits_digits (value : Nat) : AllDigits (digits 10 value) where
  nonempty := digits_ne_nil value
  decimal := fun _ hmem => isDecimal_iff.mp (isDecimal_of_mem_digits hmem)

theorem ofDigitChars_digits (value : Nat) : Nat.ofDigitChars 10 (digits 10 value) 0 = value := by
  have hread : magnitude value .tooLarge 0 (digits 10 value) = .ok value :=
    magnitude_digits (Nat.le_refl value)
  exact ((magnitude_eq_ok_iff (Nat.zero_le value)).mp hread).2.1

theorem ofDigitChars_padded (width value : Nat) :
    Nat.ofDigitChars 10 (padded width value) 0 = value := by
  rw [padded, Nat.ofDigitChars_append, Nat.ofDigitChars_replicate_zero, Nat.mul_zero,
    ofDigitChars_digits]

theorem allDigits_padded (width value : Nat) : AllDigits (padded width value) where
  nonempty := List.append_ne_nil_of_right_ne_nil _ (digits_ne_nil value)
  decimal := fun _ hmem => isDecimal_iff.mp (isDecimal_of_mem_padded hmem)

theorem spells_integer (value : Int) : Spells (integer value).toList value := by
  have hdigits := allDigits_digits value.natAbs
  rw [toList_integer]
  split
  · rw [List.singleton_append, spells_minus_iff, ofDigitChars_digits]
    exact ⟨hdigits, by omega⟩
  · have hplain := Spells.plain hdigits
    rw [ofDigitChars_digits, Int.natAbs_of_nonneg (by omega)] at hplain
    rwa [List.nil_append]

end SegmentBench.Numeral
