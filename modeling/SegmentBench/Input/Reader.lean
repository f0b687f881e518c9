import SegmentBench.Failure
import SegmentBench.Input.Stream
import SegmentBench.Settings
import SegmentBench.Text.Blank

/-!
# Reading integers

A given number of integers is read from the words of a stream, line by line, and no
line is read once the number is reached.  What follows the last integer on its line
is passed over.
-/

namespace SegmentBench

/-! ## The buffer -/

/-- Tells of a number of bytes whether the memory has room for them. -/
abbrev Memory := Nat → Bool

def Memory.usual : Memory := fun bytes => bytes < Nat.pow 2 47

def reserve (memory : Memory) (count : UInt64) : Except AllocationFault Unit :=
  let bytes := Settings.integerBytes * count.toNat
  if Settings.greatestBuffer < bytes then .error .capacityOverflow
  else if count = 0 ∨ memory bytes then .ok ()
  else .error .refused

/-! ## Lines -/

structure Progress where
  values : List Int32
  count : Nat
  deriving DecidableEq, Repr

namespace Progress

def start : Progress := ⟨[], 0⟩

def push (progress : Progress) (value : Int32) : Progress :=
  ⟨value :: progress.values, progress.count + 1⟩

def takeWords (expected : Nat) (progress : Progress) :
    List (List Char) → Except Failure Progress
  | [] => .ok progress
  | word :: rest =>
      if progress.count = expected then .ok progress
      else
        match Numeral.readInt32 word with
        | .error fault => .error (.badInteger progress.count (String.ofList word) fault)
        | .ok value => takeWords expected (progress.push value) rest

/-- An empty line is the end of the stream. -/
def takeLine (expected : Nat) (progress : Progress) (line : Bytes) :
    Except Failure Progress :=
  if line = [] then .error (.shortInput expected progress.count)
  else
    match Utf8.decode line with
    | .error fault => .error (.badEncoding progress.count fault)
    | .ok text => takeWords expected progress (words text)

theorem takeLine_nonempty {expected : Nat} {progress next : Progress} {line : Bytes}
    (result : progress.takeLine expected line = .ok next) : line ≠ [] := by
  intro empty
  simp [takeLine, empty] at result

end Progress

/-! ## Streams -/

structure Request where
  memory : Memory
  count : UInt64

namespace Stream

def readFrom (expected : Nat) (progress : Progress) (stream : Stream) :
    Except Failure Progress × Stream :=
  if progress.count < expected then
    match _read : stream.readLine with
    | (.error fault, later) => (.error (.io fault), later)
    | (.ok line, later) =>
        match _taken : progress.takeLine expected line with
        | .error failure => (.error failure, later)
        | .ok next => readFrom expected next later
  else (.ok progress, stream)
termination_by stream.rest.length
decreasing_by
  rw [← readLine_append _read]
  simp [List.length_pos_iff, Progress.takeLine_nonempty _taken]

/-- Reads `count` integers.  The stream stays as it is when there is no room for
them. -/
def readIntegers (memory : Memory) (count : UInt64) (stream : Stream) :
    Except Failure (List Int32) × Stream :=
  match reserve memory count with
  | .error fault => (.error (.allocation count fault), stream)
  | .ok () =>
      match readFrom count.toNat Progress.start stream with
      | (.error failure, later) => (.error failure, later)
      | (.ok progress, later) => (.ok progress.values.reverse, later)

def readEach (stream : Stream) : List Request → List (Except Failure (List Int32)) × Stream
  | [] => ([], stream)
  | request :: rest =>
      let (outcome, later) := stream.readIntegers request.memory request.count
      let (outcomes, last) := later.readEach rest
      (outcome :: outcomes, last)

end Stream

structure Source where
  name : String
  stream : Stream
  deriving DecidableEq, Repr

def Source.ofEntry (path : Path) (entry : Entry) : Source :=
  ⟨path.display, Stream.ofEntry entry⟩

end SegmentBench
