import SegmentBench.Decimal.Binary64
import SegmentBench.Text.Numeral

/-!
# Shortest decimals

The decimal with the fewest digits among those that round to a given binary64
magnitude, and of several with equally few digits the nearest.  One, two and
more digits are tried in turn: a grid of decimals has a point in the rounding
interval only if one of the two grid points around the magnitude lies in it.
Lengths are measured in half units, so the ends of the interval are whole.
-/

namespace SegmentBench

/-- The value `significand * 10 ^ exponent`. -/
structure Decimal where
  significand : Nat
  exponent : Int
  deriving DecidableEq, Repr

namespace Shortest

/-! ## The rounding interval -/

structure Interval where
  low : Nat
  high : Nat
  closed : Bool
  deriving DecidableEq, Repr

/-- The halfway points to the neighbours.  The neighbour below a power of two is
nearer than the one above.  The ends belong to the even magnitude. -/
def interval (magnitudeBits : Nat) : Interval :=
  let units := Binary64.unitsOf magnitudeBits
  let above := Binary64.unitsOf (magnitudeBits + 1) - units
  let below := units - Binary64.unitsOf (magnitudeBits - 1)
  ⟨2 * units - below, 2 * units + above, magnitudeBits % 2 == 0⟩

def Interval.has (range : Interval) (numerator denominator : Nat) : Bool :=
  if range.closed then
    range.low * denominator ≤ numerator && numerator ≤ range.high * denominator
  else range.low * denominator < numerator && numerator < range.high * denominator

/-! ## One grid -/

def step (exponent : Int) : Nat × Nat :=
  if 0 ≤ exponent then (2 * Binary64.unitsPerOne * Nat.pow 10 exponent.toNat, 1)
  else (2 * Binary64.unitsPerOne, Nat.pow 10 (-exponent).toNat)

def onGrid? (tie : Tie) (magnitudeBits : Nat) (exponent : Int) : Option Decimal :=
  let range := interval magnitudeBits
  let size := step exponent
  let exact := 2 * Binary64.unitsOf magnitudeBits * size.2
  let low := exact / size.1
  let inside := fun significand => range.has (significand * size.1) size.2
  if inside low && inside (low + 1) then some ⟨roundDiv tie exact size.1, exponent⟩
  else if inside low then some ⟨low, exponent⟩
  else if inside (low + 1) then some ⟨low + 1, exponent⟩
  else none

/-! ## The search -/

/-- The number of digits before the point, not positive when zeros follow the point.
The factor `10 ^ 330` lifts every magnitude above one. -/
def wholeDigits (units : Nat) : Int :=
  (Numeral.digits 10 (units * Nat.pow 10 330 / Binary64.unitsPerOne)).length - 330

def search (tie : Tie) (magnitudeBits : Nat) (whole : Int) (digits : Nat) :
    Nat → Option Decimal
  | 0 => none
  | tries + 1 =>
      match onGrid? tie magnitudeBits (whole - digits) with
      | some decimal => some decimal
      | none => search tie magnitudeBits whole (digits + 1) tries

def strip (decimal : Decimal) : Nat → Decimal
  | 0 => decimal
  | places + 1 =>
      if decimal.significand % 10 = 0 ∧ decimal.significand ≠ 0 then
        strip ⟨decimal.significand / 10, decimal.exponent + 1⟩ places
      else decimal

/-- Seventeen digits always suffice. -/
def decimal (tie : Tie) (magnitudeBits : Nat) : Decimal :=
  if magnitudeBits = 0 then ⟨0, 0⟩
  else
    let whole := wholeDigits (Binary64.unitsOf magnitudeBits)
    strip ((search tie magnitudeBits whole 1 17).getD ⟨0, 0⟩) 17

end Shortest

end SegmentBench
