import SegmentBench.Files.Tree

/-!
# Byte streams

A stream hands out its bytes in pieces of bounded size and may be disturbed at
given positions, each time once.  Reading a line joins the pieces and starts again
after an interruption; a failure loses the part of the line that was already read.
-/

namespace SegmentBench

inductive Disturbance where
  | interruption
  | failure (fault : IoFault)
  deriving DecidableEq, Repr

/-- `disturbances` are due, one after the other, when the position has reached their
offsets.  A `lasting` fault keeps every line from being read. -/
structure Stream where
  rest : Bytes
  position : Nat
  disturbances : List (Nat × Disturbance)
  piece : Nat
  lasting : Option IoFault
  deriving DecidableEq, Repr

namespace Stream

def usualPiece : Nat := 8192

def ofBytes (bytes : Bytes) : Stream := ⟨bytes, 0, [], usualPiece, none⟩

def ofEntry : Entry → Stream
  | .file content => ofBytes content
  | .directory => ⟨[], 0, [], usualPiece, some (.system SystemError.isDirectory)⟩

/-! ## One piece -/

def due? (stream : Stream) : Option (Disturbance × Stream) :=
  match stream.disturbances with
  | (offset, disturbance) :: later =>
      if offset ≤ stream.position then some (disturbance, { stream with disturbances := later })
      else none
  | [] => none

def window (stream : Stream) : Nat :=
  match stream.disturbances with
  | (offset, _) :: _ => min stream.piece (offset - stream.position)
  | [] => stream.piece

/-- The line so far, last byte first, after a piece of which `taken` bytes belong to
it; `ended` tells that the last of them ends the line. -/
structure Advance where
  line : Bytes
  rest : Bytes
  taken : Nat
  ended : Bool
  deriving DecidableEq, Repr

def newline : UInt8 := 0x0A

def advance (taken : Nat) (line : Bytes) : Nat → Bytes → Advance
  | 0, rest => ⟨line, rest, taken, false⟩
  | _ + 1, [] => ⟨line, [], taken, false⟩
  | window + 1, b :: rest =>
      if b = newline then ⟨b :: line, rest, taken + 1, true⟩
      else advance (taken + 1) (b :: line) window rest

theorem advance_taken (taken : Nat) (line : Bytes) (window : Nat) (rest : Bytes) :
    (advance taken line window rest).rest.length + (advance taken line window rest).taken =
      rest.length + taken := by
  induction window generalizing taken line rest with
  | zero => rfl
  | succ window ih =>
      cases rest with
      | nil => rfl
      | cons b rest =>
          simp only [advance]
          split
          · simp
            omega
          · rw [ih]
            simp
            omega

theorem advance_append (taken : Nat) (line : Bytes) (window : Nat) (rest : Bytes) :
    (advance taken line window rest).line.reverse ++ (advance taken line window rest).rest =
      line.reverse ++ rest := by
  induction window generalizing taken line rest with
  | zero => rfl
  | succ window ih =>
      cases rest with
      | nil => rfl
      | cons b rest =>
          simp only [advance]
          split
          · simp
          · rw [ih]
            simp

def next (stream : Stream) (line : Bytes) : Advance :=
  advance 0 line stream.window stream.rest

def after (stream : Stream) (piece : Advance) : Stream :=
  { stream with rest := piece.rest, position := stream.position + piece.taken }

theorem due?_measure {stream next : Stream} {disturbance : Disturbance}
    (due : stream.due? = some (disturbance, next)) :
    next.rest = stream.rest ∧ next.disturbances.length < stream.disturbances.length := by
  unfold due? at due
  split at due
  · rename_i heq
    split at due
    · cases due
      simp [heq]
    · cases due
  · cases due

/-! ## Lines -/

/-- Reads on in a line of which `line` was read, last byte first. -/
def readLineFrom (line : Bytes) (stream : Stream) : Except IoFault Bytes × Stream :=
  match _due : stream.due? with
  | some (.interruption, later) => readLineFrom line later
  | some (.failure fault, later) => (.error fault, later)
  | none =>
      let piece := stream.next line
      if piece.ended ∨ piece.taken = 0 then (.ok piece.line.reverse, stream.after piece)
      else readLineFrom piece.line (stream.after piece)
termination_by stream.rest.length + stream.disturbances.length
decreasing_by
  · have := due?_measure _due
    rw [this.1]
    omega
  · have := advance_taken 0 line stream.window stream.rest
    simp +zetaDelta only [next, after] at *
    omega

theorem readLineFrom_append (line : Bytes) (stream : Stream) {read : Bytes}
    {later : Stream} (result : stream.readLineFrom line = (.ok read, later)) :
    read ++ later.rest = line.reverse ++ stream.rest := by
  fun_induction readLineFrom line stream with
  | case1 line stream next due ih => rw [ih result, (due?_measure due).1]
  | case2 line stream fault next due => cases result
  | case3 line stream due piece stop =>
      cases result
      exact advance_append 0 line stream.window stream.rest
  | case4 line stream due piece stop ih =>
      rw [ih result]
      exact advance_append 0 line stream.window stream.rest

/-- The next line with its newline; the last may lack it, and an empty one is the end
of the stream. -/
def readLine (stream : Stream) : Except IoFault Bytes × Stream :=
  match stream.lasting with
  | some fault => (.error fault, stream)
  | none => readLineFrom [] stream

theorem readLine_append {stream later : Stream} {line : Bytes}
    (result : stream.readLine = (.ok line, later)) : line ++ later.rest = stream.rest := by
  unfold readLine at result
  split at result
  · cases result
  · simpa using readLineFrom_append [] stream result

end Stream

end SegmentBench
