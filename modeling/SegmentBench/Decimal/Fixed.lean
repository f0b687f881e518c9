import SegmentBench.Decimal.Binary64
import SegmentBench.Text.Numeral

/-!
# Fixed decimal places

The decimal with a given number of places that is nearest to a binary64 value; a
value midway between two goes to the one with the even last digit.  The sign of
the value stands also before a zero.
-/

namespace SegmentBench.Fixed

/-- The digits of `scaled / 10 ^ places` with a point before the last `places`. -/
def point (places scaled : Nat) : String :=
  let whole := Numeral.natural (scaled / Nat.pow 10 places)
  if places = 0 then whole
  else whole ++ "." ++ String.ofList (Numeral.padded places (scaled % Nat.pow 10 places))

def magnitude (places : Nat) : Binary64.Magnitude → String
  | .finite units =>
      point places (roundDiv .toEven (units * Nat.pow 10 places) Binary64.unitsPerOne)
  | .infinite => "inf"
  | .notANumber => "NaN"

def text (places : Nat) (x : Binary64) : String :=
  let sign := if x.isNegative ∧ x.magnitude ≠ .notANumber then "-" else ""
  sign ++ magnitude places x.magnitude

end SegmentBench.Fixed
