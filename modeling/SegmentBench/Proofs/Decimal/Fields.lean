import Mathlib.Algebra.Order.Field.Power
import Mathlib.Data.Rat.Floor
import Mathlib.Tactic.FieldSimp
import Mathlib.Tactic.Ring
import SegmentBench.Decimal.Binary64

/-!
# The value of the bits

A word of 64 bits is a sign, an exponent of eleven bits and a fraction of 52.  The units of a
finite magnitude are its value exactly, whether or not the exponent is the lowest.
-/

namespace SegmentBench.Binary64

/-! ## The fields -/

def signBit (x : Binary64) : Bool := x.bits.toNat.testBit 63

def exponentField (x : Binary64) : Nat := x.bits.toNat / 2 ^ 52 % 2 ^ 11

def fraction (x : Binary64) : Nat := x.bits.toNat % 2 ^ 52

/-- The highest exponent is the one of the infinities and of what is no number. -/
def IsFinite (x : Binary64) : Prop := x.exponentField < 2 ^ 11 - 1

instance (x : Binary64) : Decidable x.IsFinite := inferInstanceAs (Decidable (_ < _))

/-- What the fields of a finite magnitude stand for.  The lowest exponent has no hidden bit. -/
def ofFields (exponentField fraction : Nat) : Rat :=
  if exponentField = 0 then (fraction : Rat) / 2 ^ 52 * 2 ^ (-1022 : Int)
  else (1 + (fraction : Rat) / 2 ^ 52) * 2 ^ ((exponentField : Int) - 1023)

def value (x : Binary64) : Rat :=
  if x.signBit then -ofFields x.exponentField x.fraction else ofFields x.exponentField x.fraction

variable {x : Binary64}

theorem signBit_eq_isNegative (x : Binary64) : x.signBit = x.isNegative := by
  have hbits : x.bits.toNat < 2 ^ 64 := x.bits.toNat_lt
  rw [signBit, isNegative, Nat.testBit_eq_decide_div_mod_eq, Nat.pow_eq]
  exact decide_eq_decide.mpr (by omega)

theorem fraction_lt (x : Binary64) : x.fraction < 2 ^ 52 := Nat.mod_lt _ (by decide)

theorem magnitudeBits_eq (x : Binary64) :
    x.magnitudeBits = x.exponentField * 2 ^ 52 + x.fraction := by
  simp only [magnitudeBits, exponentField, fraction, Nat.pow_eq]
  omega

theorem magnitude_of_isFinite (hfinite : x.IsFinite) :
    x.magnitude = .finite (unitsOf (x.exponentField * 2 ^ 52 + x.fraction)) := by
  have hexponent : x.exponentField < 2047 := hfinite
  have hless : x.exponentField * 2 ^ 52 + x.fraction < infiniteBits := by
    have hfraction := x.fraction_lt
    simp only [infiniteBits, Nat.pow_eq]
    omega
  rw [magnitude, magnitudeBits_eq, if_pos hless]

/-! ## The units -/

theorem unitsOf_add {exponentField fraction : Nat} (hfraction : fraction < 2 ^ 52) :
    unitsOf (exponentField * 2 ^ 52 + fraction) =
      match exponentField with
      | 0 => fraction
      | field + 1 => (2 ^ 52 + fraction) * 2 ^ field := by
  have hfield : (exponentField * 2 ^ 52 + fraction) / Nat.pow 2 52 = exponentField := by
    rw [Nat.pow_eq]
    omega
  have hrest : (exponentField * 2 ^ 52 + fraction) % Nat.pow 2 52 = fraction := by
    rw [Nat.pow_eq]
    omega
  rw [unitsOf, hfield, hrest]
  rfl

theorem cast_unitsPerOne : (unitsPerOne : Rat) = 2 ^ 1074 := by
  unfold unitsPerOne
  -- no power is computed as long as its exponent is any number
  generalize 1074 = exponent
  exact Nat.cast_pow 2 exponent

theorem unitsPerOne_pos : 0 < unitsPerOne := by
  unfold unitsPerOne
  generalize 1074 = exponent
  exact Nat.pow_pos two_pos

theorem two_zpow_sub (exponent bias : Nat) :
    (2 : Rat) ^ ((exponent : Int) - bias) = 2 ^ exponent / 2 ^ bias := by
  rw [zpow_sub₀ two_ne_zero, zpow_natCast, zpow_natCast]

theorem unitsOf_div_unitsPerOne {exponentField fraction : Nat} (hfraction : fraction < 2 ^ 52) :
    (unitsOf (exponentField * 2 ^ 52 + fraction) : Rat) / unitsPerOne =
      ofFields exponentField fraction := by
  have hunits : (2 : Rat) ^ 1074 = 2 ^ 52 * 2 ^ 1022 := pow_add 2 52 1022
  rw [unitsOf_add hfraction, cast_unitsPerOne, hunits, ofFields]
  cases exponentField with
  | zero =>
      have hlowest : (2 : Rat) ^ (-1022 : Int) = 1 / 2 ^ 1022 := two_zpow_sub 0 1022
      rw [if_pos rfl, hlowest]
      field_simp
  | succ field =>
      have hscale : (2 : Rat) ^ (((field + 1 : Nat) : Int) - 1023) = 2 ^ field / 2 ^ 1022 := by
        rw [← two_zpow_sub]
        congr 1
        omega
      rw [if_neg (Nat.succ_ne_zero field), hscale]
      push_cast
      field_simp
      norm_num

theorem exists_magnitude_of_isFinite (hfinite : x.IsFinite) :
    ∃ units : Nat, x.magnitude = .finite units ∧
      x.value = if x.isNegative then -(units / unitsPerOne : Rat) else units / unitsPerOne := by
  refine ⟨_, magnitude_of_isFinite hfinite, ?_⟩
  rw [unitsOf_div_unitsPerOne x.fraction_lt, value, signBit_eq_isNegative]

end SegmentBench.Binary64
