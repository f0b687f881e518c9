/-!
# Maximum segment sums

Two ways to score a list of 32-bit integers by its contiguous segments.  The
clamped sum also admits the empty segment, so it is never negative; the classic
sum ranges over non-empty segments only, so the empty list has none.  Both are
one left-to-right scan that carries the best sum so far together with the best
sum of a segment that ends at the scan position, in 64-bit words.
-/

namespace SegmentBench

structure Scan where
  best : Int64
  current : Int64
  deriving DecidableEq, Repr

/-! ## Segments that may be empty -/

namespace Clamped

def start : Scan := ⟨0, 0⟩

/-- A running sum that drops below zero is replaced by the empty segment. -/
def step (scan : Scan) (value : Int32) : Scan :=
  let added := scan.current + value.toInt64
  let current := if added < 0 then 0 else added
  ⟨if scan.best < current then current else scan.best, current⟩

def scan (values : List Int32) : Scan := values.foldl step start

def sum (values : List Int32) : Int64 := (scan values).best

end Clamped

/-! ## Non-empty segments -/

namespace Classic

def start (first : Int32) : Scan := ⟨first.toInt64, first.toInt64⟩

/-- A segment that ends here either extends the one before or starts afresh. -/
def step (scan : Scan) (value : Int32) : Scan :=
  let extended := scan.current + value.toInt64
  let current := if value.toInt64 < extended then extended else value.toInt64
  ⟨if scan.best < current then current else scan.best, current⟩

def scan (first : Int32) (rest : List Int32) : Scan := rest.foldl step (start first)

def sum? : List Int32 → Option Int64
  | [] => none
  | first :: rest => some (scan first rest).best

end Classic

/-! ## The choice between them -/

inductive Algorithm where
  | clamped
  | classic
  deriving DecidableEq, Repr

namespace Algorithm

def all : List Algorithm := [.clamped, .classic]

def name : Algorithm → String
  | .clamped => "clamped"
  | .classic => "classic"

/-- The name with a capital, as the diagnostics write it. -/
def title : Algorithm → String
  | .clamped => "Clamped"
  | .classic => "Classic"

def sum? : Algorithm → List Int32 → Option Int64
  | .clamped, values => some (Clamped.sum values)
  | .classic, values => Classic.sum? values

def lastSum (algorithm : Algorithm) (values : List Int32) (last : Option Int64) :
    Nat → Option Int64
  | 0 => last
  | count + 1 => lastSum algorithm values (algorithm.sum? values) count

theorem lastSum_succ (algorithm : Algorithm) (values : List Int32)
    (last : Option Int64) (count : Nat) :
    algorithm.lastSum values last (count + 1) = algorithm.sum? values := by
  induction count generalizing last with
  | zero => rfl
  | succ count ih => exact ih (algorithm.sum? values)

end Algorithm

end SegmentBench
