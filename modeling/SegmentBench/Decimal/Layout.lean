import SegmentBench.Decimal.Shortest

/-!
# Layouts of shortest decimals

Two ways to write a binary64 value by its shortest decimal: plainly, with every
digit in its place, and compactly, with an exponent where the plain form grows
long.
-/

namespace SegmentBench.Layout

def positional (decimal : Decimal) : String :=
  let digits := Numeral.digits 10 decimal.significand
  let whole := decimal.exponent + digits.length
  if 0 ≤ decimal.exponent then
    String.ofList (digits ++ List.replicate decimal.exponent.toNat '0')
  else if 0 < whole then
    String.ofList (digits.take whole.toNat ++ '.' :: digits.drop whole.toNat)
  else String.ofList ('0' :: '.' :: List.replicate (-whole).toNat '0' ++ digits)

def exponential (decimal : Decimal) : String :=
  let digits := Numeral.digits 10 decimal.significand
  let power := decimal.exponent + digits.length - 1
  let mantissa := digits.take 1 ++ (if digits.length = 1 then [] else '.' :: digits.drop 1)
  String.ofList mantissa ++ (if power < 0 then "e" else "e+") ++ Numeral.integer power

def sign (x : Binary64) : String := if x.isNegative then "-" else ""

/-! ## The plain layout -/

def plain (x : Binary64) : String :=
  match x.magnitude with
  | .notANumber => "NaN"
  | .infinite => sign x ++ "inf"
  | .finite _ => sign x ++ positional (Shortest.decimal .up x.magnitudeBits)

/-- The plain layout in which a whole number shows that it is no integer. -/
def plainPointed (x : Binary64) : String :=
  match x.magnitude with
  | .finite _ =>
      let decimal := Shortest.decimal .up x.magnitudeBits
      sign x ++ positional decimal ++ (if 0 ≤ decimal.exponent then ".0" else "")
  | _ => plain x

/-! ## The compact layout -/

/-- Positional with up to 16 digits before the point and up to four zeros behind it. -/
def compactDecimal (decimal : Decimal) : String :=
  let whole := decimal.exponent + (Numeral.digits 10 decimal.significand).length
  if -5 < whole ∧ whole ≤ 16 then
    positional decimal ++ (if 0 ≤ decimal.exponent then ".0" else "")
  else exponential decimal

def compact? (x : Binary64) : Option String :=
  match x.magnitude with
  | .finite _ => some (sign x ++ compactDecimal (Shortest.decimal .toEven x.magnitudeBits))
  | _ => none

end SegmentBench.Layout
