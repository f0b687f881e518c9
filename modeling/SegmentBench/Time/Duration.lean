import SegmentBench.Decimal.Binary64
import SegmentBench.Text.Numeral

/-!
# Durations

A length of time in whole seconds and nanoseconds, its value in seconds, and its
text in the largest unit of which it holds at least one.
-/

namespace SegmentBench

structure Duration where
  seconds : Nat
  nanoseconds : Nat
  deriving DecidableEq, Repr

namespace Duration

def perSecond : Nat := 1000000000

def ofNanoseconds (total : Nat) : Duration := ⟨total / perSecond, total % perSecond⟩

def toNanoseconds (duration : Duration) : Nat :=
  duration.seconds * perSecond + duration.nanoseconds

/-- The two parts are rounded each for itself, and so is their sum. -/
def inSeconds (duration : Duration) : Binary64 :=
  (Binary64.ofNat duration.seconds).plus
    ((Binary64.ofNat duration.nanoseconds).dividedBy (Binary64.ofNat perSecond))

def share (duration : Duration) (count : UInt64) : Binary64 :=
  if count = 0 then Binary64.ofNat 0
  else (Binary64.ofNat duration.toNanoseconds).dividedBy (Binary64.ofNat count.toNat)

def amount (whole fraction places : Nat) : String :=
  let digits := ((Numeral.padded places fraction).reverse.dropWhile (· == '0')).reverse
  Numeral.natural whole ++ (if digits.isEmpty then "" else "." ++ String.ofList digits)

def text (duration : Duration) : String :=
  let nanoseconds := duration.nanoseconds
  if 0 < duration.seconds then amount duration.seconds nanoseconds 9 ++ "s"
  else if 1000000 ≤ nanoseconds then
    amount (nanoseconds / 1000000) (nanoseconds % 1000000) 6 ++ "ms"
  else if 1000 ≤ nanoseconds then amount (nanoseconds / 1000) (nanoseconds % 1000) 3 ++ "µs"
  else amount nanoseconds 0 0 ++ "ns"

end Duration

end SegmentBench
