import SegmentBench.Decimal.Rounding
import SegmentBench.Text.Numeral

/-!
# Binary floating point of 64 bits

Every finite magnitude is a whole number of units of `2 ^ -1074`, so the
arithmetic here is exact on naturals and rounds once, to the nearest
representable magnitude and to the even one of two.  Below the infinite one, the
magnitude bits count the representable magnitudes in rising order; a carry out
of the fraction therefore lands in the exponent field by itself.
-/

namespace SegmentBench

structure Binary64 where
  bits : UInt64
  deriving DecidableEq, Repr

namespace Binary64

/-! ## Reading the bits -/

def unitsPerOne : Nat := Nat.pow 2 1074

def infiniteBits : Nat := 2047 * Nat.pow 2 52

def isNegative (x : Binary64) : Bool := Nat.pow 2 63 ≤ x.bits.toNat

def magnitudeBits (x : Binary64) : Nat := x.bits.toNat % Nat.pow 2 63

/-- The units of a finite magnitude.  The lowest exponent field has no hidden bit. -/
def unitsOf (magnitudeBits : Nat) : Nat :=
  match magnitudeBits / Nat.pow 2 52 with
  | 0 => magnitudeBits % Nat.pow 2 52
  | field + 1 => (Nat.pow 2 52 + magnitudeBits % Nat.pow 2 52) * Nat.pow 2 field

inductive Magnitude where
  | finite (units : Nat)
  | infinite
  | notANumber
  deriving DecidableEq, Repr

def magnitude (x : Binary64) : Magnitude :=
  if x.magnitudeBits < infiniteBits then .finite (unitsOf x.magnitudeBits)
  else if x.magnitudeBits = infiniteBits then .infinite
  else .notANumber

/-! ## Rounding to a representable magnitude -/

def roundRatio (numerator denominator : Nat) : Nat :=
  let units := numerator * unitsPerOne
  let dropped := Nat.log2 (units / denominator) - 52
  min
    (dropped * Nat.pow 2 52 + roundDiv .toEven units (denominator * Nat.pow 2 dropped))
    infiniteBits

def ofMagnitude (negative : Bool) (magnitudeBits : Nat) : Binary64 :=
  ⟨UInt64.ofNat (if negative then Nat.pow 2 63 + magnitudeBits else magnitudeBits)⟩

def ofRatio (numerator denominator : Nat) : Binary64 :=
  ofMagnitude false (roundRatio numerator denominator)

def ofNat (value : Nat) : Binary64 := ofRatio value 1

/-- The value nearest to the number of some decimal digits, times `10 ^ exponent`.  An
exponent far outside the range decides without the power. -/
def ofDecimal (negative : Bool) (digits : List Char) (exponent : Int) : Binary64 :=
  let digits := digits.dropWhile (· = '0')
  let significand := Numeral.append 10 0 digits
  ofMagnitude negative <|
    if significand = 0 then 0
    else if 400 < exponent + digits.length then infiniteBits
    else if exponent + digits.length < -400 then 0
    else if 0 ≤ exponent then roundRatio (significand * Nat.pow 10 exponent.toNat) 1
    else roundRatio significand (Nat.pow 10 (-exponent).toNat)

/-! ## Arithmetic on magnitudes -/

def finiteUnits (x : Binary64) : Nat :=
  match x.magnitude with
  | .finite units => units
  | _ => 0

def plus (x y : Binary64) : Binary64 :=
  ofRatio (x.finiteUnits + y.finiteUnits) unitsPerOne

def dividedBy (x y : Binary64) : Binary64 := ofRatio x.finiteUnits y.finiteUnits

/-! ## Order -/

def key? (x : Binary64) : Option Int :=
  if infiniteBits < x.magnitudeBits then none
  else some (if x.isNegative then -x.magnitudeBits else x.magnitudeBits)

def lt (x y : Binary64) : Bool :=
  match x.key?, y.key? with
  | some a, some b => a < b
  | _, _ => false

end Binary64

end SegmentBench
