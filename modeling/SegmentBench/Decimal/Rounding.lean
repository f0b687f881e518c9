/-!
# Rounding a quotient

The integer nearest to a quotient of naturals, with the rule for a value midway
between two integers as a parameter.
-/

namespace SegmentBench

inductive Tie where
  | toEven
  | up
  deriving DecidableEq, Repr

/-- Whether a value midway between `low` and `low + 1` goes to the upper one. -/
def Tie.raises (tie : Tie) (low : Nat) : Bool :=
  match tie with
  | .toEven => low % 2 == 1
  | .up => true

def roundDiv (tie : Tie) (numerator denominator : Nat) : Nat :=
  let low := numerator / denominator
  match compare (2 * (numerator % denominator)) denominator with
  | .lt => low
  | .gt => low + 1
  | .eq => if tie.raises low then low + 1 else low

end SegmentBench
