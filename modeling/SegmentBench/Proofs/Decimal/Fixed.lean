import SegmentBench.Decimal.Fixed
import SegmentBench.Proofs.Decimal.Fields
import SegmentBench.Proofs.Decimal.Nearest
import SegmentBench.Proofs.Json.Grammar
import SegmentBench.Proofs.Text.Integers

/-!
# Values to a number of places

A finite value is written as the multiple of a power of ten that is nearest to what its bits
stand for.  The digits are exact however far the value is from one, and the sign is the one of
the bits, also in front of a zero.
-/

namespace SegmentBench.Fixed

open Json (minus signed)
open Numeral (AllDigits allDigits_digits allDigits_padded)

variable {places scaled : Nat} {negative : Bool} {text : List Char} {x : Binary64}

/-! ## The grammar -/

/-- A minus sign or none, a digit or more, a point and as many digits as there are places.  The
number is the one without the point. -/
inductive Spells (places : Nat) (negative : Bool) : Nat → List Char → Prop where
  | parts {whole fraction : List Char} (whole_digits : AllDigits whole)
      (fraction_digits : AllDigits fraction) (fraction_length : fraction.length = places) :
      Spells places negative (Nat.ofDigitChars 10 (whole ++ fraction) 0)
        (minus negative ++ whole ++ '.' :: fraction)

theorem Spells.notMem {c : Char} (hspells : Spells places negative scaled text)
    (hdigit : c.isDigit = false) (hminus : c ≠ '-') (hpoint : c ≠ '.') : c ∉ text := by
  cases hspells with
  | parts whole_digits fraction_digits =>
      have hsign : c ∉ minus negative := by
        cases negative <;> simp [minus, hminus]
      simp [hsign, whole_digits.notMem hdigit, hpoint, fraction_digits.notMem hdigit]

theorem spells_point (hplaces : 0 < places) (negative : Bool) (scaled : Nat) :
    Spells places negative scaled (minus negative ++ (point places scaled).toList) := by
  have hrest : scaled % 10 ^ places < 10 ^ places := Nat.mod_lt _ (Nat.pow_pos (by decide))
  have hlength := Numeral.length_padded hplaces hrest
  have hspells : Spells places negative _ _ :=
    .parts (allDigits_digits (scaled / 10 ^ places)) (allDigits_padded _ _) hlength
  have hnumber : Nat.ofDigitChars 10 (Numeral.digits 10 (scaled / 10 ^ places) ++
      Numeral.padded places (scaled % 10 ^ places)) 0 = scaled := by
    rw [Nat.ofDigitChars_append, Numeral.ofDigitChars_digits, Nat.ofDigitChars_eq_ofDigitChars_zero,
      Numeral.ofDigitChars_padded, hlength, Nat.div_add_mod]
  rw [hnumber] at hspells
  simpa [point, hplaces.ne', Numeral.toList_natural] using hspells

/-! ## Finite values -/

theorem toList_text {units : Nat} (hmagnitude : x.magnitude = .finite units) (places : Nat) :
    (Fixed.text places x).toList = minus x.isNegative ++
      (point places (roundDiv .toEven (units * 10 ^ places) Binary64.unitsPerOne)).toList := by
  rw [Fixed.text, hmagnitude]
  cases x.isNegative <;> simp [minus, magnitude]

theorem isNearest_decimal {denominator : Nat} (hdenominator : 0 < denominator)
    (numerator places : Nat) :
    IsNearest (numerator / denominator) (1 / 10 ^ places)
      (roundDiv .toEven (numerator * 10 ^ places) denominator) := by
  have hplace : (0 : Rat) < 1 / 10 ^ places := by positivity
  have hscaled : ((numerator * 10 ^ places : Nat) : Rat) / denominator * (1 / 10 ^ places) =
      numerator / denominator := by
    push_cast
    field_simp
  rw [← hscaled]
  exact isNearest_roundDiv _ hdenominator hplace

/-- The decimal has the sign of the bits and is the nearest to their value. -/
theorem exists_spells_text (hplaces : 0 < places) (hfinite : x.IsFinite) :
    ∃ scaled, Spells places x.signBit scaled (Fixed.text places x).toList ∧
      IsNearest x.value (1 / 10 ^ places) (signed x.signBit scaled) := by
  obtain ⟨units, hmagnitude, hvalue⟩ := Binary64.exists_magnitude_of_isFinite hfinite
  rw [Binary64.signBit_eq_isNegative, toList_text hmagnitude, hvalue]
  refine ⟨_, spells_point hplaces x.isNegative _, ?_⟩
  have hnearest := isNearest_decimal Binary64.unitsPerOne_pos units places
  cases x.isNegative with
  | false => exact hnearest
  | true => exact hnearest.neg

end SegmentBench.Fixed
