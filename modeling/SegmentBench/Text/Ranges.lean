/-!
# Ranges of code points

A set of characters as a list of ranges of code points, both ends included, in
rising order.  The order lets a search end at the first range above the
character.
-/

namespace SegmentBench

abbrev Ranges := List (Nat × Nat)

namespace Ranges

def has (code : Nat) : Ranges → Bool
  | [] => false
  | (low, high) :: rest =>
      if code < low then false
      else if code ≤ high then true
      else has code rest

end Ranges

end SegmentBench
