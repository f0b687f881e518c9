import Mathlib.Tactic.IntervalCases
import SegmentBench.Text.Numeral

/-!
# Decimal numerals

The digits that are written for a number are the number when they are read, and only
those of zero begin with a zero.
-/

namespace SegmentBench.Numeral

variable {base value : Nat} {c : Char}

/-! ## Single digits -/

theorem digit?_digit_of_le (hbase : base ≤ 36) (hvalue : value < base) :
    digit? base (digit value) = some value := by
  have hall : ∀ value < 36, digit? 36 (digit value) = some value := by decide
  have hread := hall value (Nat.lt_of_lt_of_le hvalue hbase)
  rw [digit?, Option.filter_eq_some_iff] at hread ⊢
  exact ⟨hread.1, decide_eq_true hvalue⟩

theorem digit?_digit (hvalue : value < 10) : digit? 10 (digit value) = some value :=
  digit?_digit_of_le (by decide) hvalue

theorem isDecimal_digit (hvalue : value < 10) : isDecimal (digit value) = true := by
  rw [isDecimal, isDigit, digit?_digit hvalue]
  rfl

/-- What a decimal digit is satisfied by is settled by the ten of them. -/
theorem mem_of_isDecimal (hdecimal : isDecimal c = true) : c ∈ "0123456789".toList := by
  have hrange : '0' ≤ c ∧ c ≤ '9' := by
    simp only [isDecimal, isDigit, digit?, Option.isSome_filter] at hdecimal
    split at hdecimal
    case isTrue hdigit => exact hdigit
    split at hdecimal
    case isTrue hletter =>
      have hcode : 97 ≤ c.toNat := hletter.1
      simp at hdecimal
      omega
    split at hdecimal
    case isTrue hletter =>
      have hcode : 65 ≤ c.toNat := hletter.1
      simp at hdecimal
      omega
    simp at hdecimal
  have hlow : 48 ≤ c.toNat := hrange.1
  have hhigh : c.toNat ≤ 57 := hrange.2
  have hcode : ∀ code, code < 58 → 48 ≤ code → Char.ofNat code ∈ "0123456789".toList := by
    decide
  simpa using hcode c.toNat (by omega) hlow

/-! ## All digits -/

theorem digits_small (hvalue : value < base) : digits base value = [digit value] := by
  rw [digits, if_pos (.inr hvalue)]

theorem digits_step_of_le (hbase : 2 ≤ base) (hvalue : base ≤ value) :
    digits base value = digits base (value / base) ++ [digit (value % base)] := by
  rw [digits, if_neg (by omega)]

theorem digits_step (hvalue : 10 ≤ value) :
    digits 10 value = digits 10 (value / 10) ++ [digit (value % 10)] :=
  digits_step_of_le (by decide) hvalue

theorem digits_ne_nil (value : Nat) : digits 10 value ≠ [] := by
  rw [digits]
  split <;> simp

theorem exists_digit_of_mem_digits (hbase : 2 ≤ base) (hmem : c ∈ digits base value) :
    ∃ last < base, c = digit last := by
  induction value using Nat.strong_induction_on with
  | h value ih =>
      obtain hsmall | hstep := Nat.lt_or_ge value base
      · rw [digits_small hsmall, List.mem_singleton] at hmem
        exact ⟨value, hsmall, hmem⟩
      · rw [digits_step_of_le hbase hstep, List.mem_append, List.mem_singleton] at hmem
        obtain hmem | hlast := hmem
        · exact ih (value / base) (Nat.div_lt_self (by omega) hbase) hmem
        · exact ⟨value % base, Nat.mod_lt _ (by omega), hlast⟩

theorem isDecimal_of_mem_digits (hmem : c ∈ digits 10 value) : isDecimal c = true := by
  obtain ⟨last, hlast, rfl⟩ := exists_digit_of_mem_digits (by decide) hmem
  exact isDecimal_digit hlast

theorem notMem_digits (hc : isDecimal c = false) (value : Nat) : c ∉ digits 10 value := by
  intro hmem
  rw [isDecimal_of_mem_digits hmem] at hc
  cases hc

theorem isDecimal_of_mem_zeros {count : Nat} (hmem : c ∈ List.replicate count '0') :
    isDecimal c = true := by
  rw [List.eq_of_mem_replicate hmem]
  decide

theorem isDecimal_of_mem_padded {width : Nat} (hmem : c ∈ padded width value) :
    isDecimal c = true := by
  rw [padded, List.mem_append] at hmem
  obtain hmem | hmem := hmem
  · exact isDecimal_of_mem_zeros hmem
  · exact isDecimal_of_mem_digits hmem

theorem append_digits_of_le (hbase : 2 ≤ base) (hgreatest : base ≤ 36) (value : Nat) :
    append base 0 (digits base value) = value := by
  induction value using Nat.strong_induction_on with
  | h value ih =>
      obtain hsmall | hstep := Nat.lt_or_ge value base
      · simp [digits_small hsmall, append, digit?_digit_of_le hgreatest hsmall]
      · have hrest := ih (value / base) (Nat.div_lt_self (by omega) hbase)
        have hlast : value % base < base := Nat.mod_lt _ (by omega)
        rw [append] at hrest
        rw [digits_step_of_le hbase hstep, append, List.foldl_append, hrest]
        simp only [List.foldl_cons, List.foldl_nil, digit?_digit_of_le hgreatest hlast,
          Option.getD_some]
        exact Nat.div_add_mod' value base

theorem append_digits (value : Nat) : append 10 0 (digits 10 value) = value :=
  append_digits_of_le (by decide) (by decide) value

theorem digits_injective {first second : Nat} (hdigits : digits 10 first = digits 10 second) :
    first = second := by
  have hread := append_digits first
  rw [hdigits, append_digits] at hread
  exact hread.symm

theorem head?_digits_ne_zero (hvalue : 0 < value) : (digits 10 value).head? ≠ some '0' := by
  induction value using Nat.strong_induction_on with
  | h value ih =>
      obtain hsmall | hstep := Nat.lt_or_ge value 10
      · rw [digits_small hsmall]
        interval_cases value <;> decide
      · rw [digits_step hstep, List.head?_append, Option.or_of_isSome]
        · exact ih (value / 10) (by omega) (by omega)
        · exact List.isSome_head?.mpr (digits_ne_nil _)

theorem length_digits_of_head? (hhead : (digits 10 value).head? = some '0') :
    (digits 10 value).length = 1 := by
  obtain rfl | hvalue := Nat.eq_zero_or_pos value
  · rw [digits_small (by decide)]
    rfl
  · exact absurd hhead (head?_digits_ne_zero hvalue)

theorem length_digits_le {width : Nat} (hwidth : 0 < width) (hvalue : value < 10 ^ width) :
    (digits 10 value).length ≤ width := by
  induction width generalizing value with
  | zero => exact absurd hwidth (Nat.lt_irrefl 0)
  | succ width ih =>
      obtain hsmall | hstep := Nat.lt_or_ge value 10
      · rw [digits_small hsmall]
        exact Nat.succ_le_succ (Nat.zero_le width)
      · have hrest : value / 10 < 10 ^ width := Nat.div_lt_of_lt_mul (Nat.pow_succ' ▸ hvalue)
        have hpos : 0 < width := by
          refine Nat.pos_of_ne_zero fun hzero => ?_
          rw [hzero] at hvalue
          omega
        rw [digits_step hstep, List.length_append]
        exact Nat.succ_le_succ (ih hpos hrest)

theorem length_padded {width : Nat} (hwidth : 0 < width) (hvalue : value < 10 ^ width) :
    (padded width value).length = width := by
  have hlength := length_digits_le hwidth hvalue
  rw [padded, List.length_append, List.length_replicate]
  omega

theorem toList_natural (value : Nat) : (natural value).toList = digits 10 value :=
  String.toList_ofList

theorem toList_integer (value : Int) :
    (integer value).toList = (if value < 0 then ['-'] else []) ++ digits 10 value.natAbs := by
  cases value with
  | ofNat value =>
      have hsign : ¬Int.ofNat value < 0 := Int.not_lt.mpr (Int.natCast_nonneg value)
      rw [if_neg hsign, List.nil_append]
      exact toList_natural value
  | negSucc value =>
      rw [if_pos (Int.negSucc_lt_zero value), integer, String.toList_append, toList_natural]
      rfl

/-! ## Reading -/

theorem magnitude_append (limit : Nat) (beyond : Fault) (value : Nat) (first second : List Char) :
    magnitude limit beyond value (first ++ second) =
      magnitude limit beyond value first >>= fun next => magnitude limit beyond next second := by
  induction first generalizing value with
  | nil => rfl
  | cons c first ih =>
      rw [List.cons_append, magnitude, magnitude]
      split
      · rfl
      split
      · rfl
      · exact ih _

theorem magnitude_digit {limit : Nat} {beyond : Fault} {value last : Nat} (hlast : last < 10)
    (hlimit : value * 10 + last ≤ limit) :
    magnitude limit beyond value [digit last] = .ok (value * 10 + last) := by
  simp only [magnitude, digit?_digit hlast, if_neg (Nat.not_lt.mpr hlimit)]

theorem magnitude_digits {limit : Nat} {beyond : Fault} (hlimit : value ≤ limit) :
    magnitude limit beyond 0 (digits 10 value) = .ok value := by
  induction value using Nat.strong_induction_on with
  | h value ih =>
      obtain hsmall | hstep := Nat.lt_or_ge value 10
      · have hread : magnitude limit beyond 0 [digit value] = .ok (0 * 10 + value) :=
          magnitude_digit hsmall (by omega)
        rw [digits_small hsmall, hread, Nat.zero_mul, Nat.zero_add]
      · have hwhole : value / 10 * 10 + value % 10 = value := by omega
        have hlast : value % 10 < 10 := Nat.mod_lt _ (by decide)
        rw [digits_step hstep, magnitude_append, ih (value / 10) (by omega) (by omega)]
        refine (magnitude_digit hlast ?_).trans (congrArg Except.ok hwhole)
        rwa [hwhole]

theorem readUInt64_eq {text : List Char} (hnonempty : text ≠ [])
    (hplus : text.head? ≠ some '+') :
    readUInt64 text = (magnitude greatestUInt64 .tooLarge 0 text).map UInt64.ofNat := by
  rw [readUInt64]
  · exact hnonempty
  · rintro rfl
    exact hplus rfl
  · rintro rest rfl
    exact hplus rfl

theorem readUInt64_digits (number : UInt64) :
    readUInt64 (digits 10 number.toNat) = .ok number := by
  have hlimit : number.toNat ≤ greatestUInt64 := Nat.le_of_lt_succ number.toNat_lt
  have hplus : (digits 10 number.toNat).head? ≠ some '+' := fun hhead =>
    notMem_digits (by decide) _ (List.mem_of_head? hhead)
  rw [readUInt64_eq (digits_ne_nil _) hplus, magnitude_digits hlimit]
  exact congrArg Except.ok UInt64.ofNat_toNat

end SegmentBench.Numeral
