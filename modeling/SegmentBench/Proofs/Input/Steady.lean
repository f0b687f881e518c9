import SegmentBench.Input.Reader
import SegmentBench.Proofs.Text.Lines

/-!
# Steady streams

A steady stream hands out at least one byte at a time and is disturbed by interruptions
only.  It yields the lines of its bytes one by one, so that a reader sees nothing of
the pieces: reading integers from it is a recursion over the list of lines.
-/

namespace SegmentBench

namespace Stream

structure Steady (stream : Stream) : Prop where
  piece : 0 < stream.piece
  interruptions : ∀ due ∈ stream.disturbances, due.2 = .interruption
  lasting : stream.lasting = none

theorem steady_ofBytes (bytes : Bytes) : (ofBytes bytes).Steady where
  piece := by simp [ofBytes, usualPiece]
  interruptions := by simp [ofBytes]
  lasting := rfl

/-! ## Pieces -/

/-- The bytes `read` are what a piece moved from `rest` to the line: none of them is a
newline, unless the last one is, which ends the line; otherwise the piece ends with its
window or with the stream. -/
structure Moves (read : Bytes) (taken : Nat) (line : Bytes) (window : Nat) (rest : Bytes)
    (piece : Advance) : Prop where
  rest : rest = read ++ piece.rest
  line : piece.line = read.reverse ++ line
  taken : piece.taken = taken + read.length
  closed : piece.ended = true → ∃ body, read = body ++ [newline] ∧ newline ∉ body
  goesOn : piece.ended = false →
    newline ∉ read ∧ (read.length = window ∨ piece.rest = [])

theorem advance_moves (taken : Nat) (line : Bytes) (window : Nat) (rest : Bytes) :
    ∃ read, Moves read taken line window rest (advance taken line window rest) := by
  induction window generalizing taken line rest with
  | zero => exact ⟨[], by constructor <;> simp [advance]⟩
  | succ window ih =>
      cases rest with
      | nil => exact ⟨[], by constructor <;> simp [advance]⟩
      | cons b rest =>
          by_cases hb : b = newline
          · refine ⟨[b], ?_⟩
            constructor <;> simp [advance, hb]
          · obtain ⟨read, hread⟩ := ih (taken + 1) (b :: line) rest
            simp only [advance, if_neg hb]
            refine ⟨b :: read, ?_⟩
            constructor
            · rw [List.cons_append, ← hread.rest]
            · simp [hread.line]
            · rw [hread.taken, List.length_cons]
              omega
            · intro hended
              obtain ⟨body, rfl, hbody⟩ := hread.closed hended
              exact ⟨b :: body, rfl, by simp [hbody, Ne.symm hb]⟩
            · intro hopen
              obtain ⟨hnewline, hstop⟩ := hread.goesOn hopen
              exact ⟨by simp [hnewline, Ne.symm hb], hstop.imp_left (by simp)⟩

theorem next_moves (stream : Stream) (line : Bytes) :
    ∃ read, Moves read 0 line stream.window stream.rest (stream.next line) :=
  advance_moves 0 line stream.window stream.rest

theorem window_pos {stream : Stream} (hpiece : 0 < stream.piece)
    (hdue : stream.due? = none) : 0 < stream.window := by
  unfold window
  unfold due? at hdue
  split at hdue
  · rename_i hdisturbances
    split at hdue
    · cases hdue
    · omega
  · rename_i hdisturbances
    simpa only [hdisturbances] using hpiece

theorem next_of_stop {stream : Stream} (hpiece : 0 < stream.piece)
    (hdue : stream.due? = none) {line : Bytes}
    (hstop : (stream.next line).ended = true ∨ (stream.next line).taken = 0) :
    (stream.next line).line.reverse = line.reverse ++ takeLine newline stream.rest ∧
      (stream.next line).rest = dropLine newline stream.rest := by
  obtain ⟨read, hread⟩ := stream.next_moves line
  rw [hread.line, hread.rest]
  cases hended : (stream.next line).ended with
  | true =>
      obtain ⟨body, rfl, hbody⟩ := hread.closed hended
      simp [takeLine_append_of_notMem hbody, dropLine_append_of_notMem hbody]
  | false =>
      have htaken : (stream.next line).taken = 0 := hstop.resolve_left (by simp [hended])
      rw [hread.taken, Nat.zero_add] at htaken
      have hwindow := window_pos hpiece hdue
      have hrest : (stream.next line).rest = [] :=
        (hread.goesOn hended).2.resolve_left (by omega)
      simp [hrest, List.length_eq_zero_iff.mp htaken]

theorem next_of_go {stream : Stream} {line : Bytes}
    (hopen : (stream.next line).ended = false) :
    (stream.next line).line.reverse ++ takeLine newline (stream.next line).rest =
        line.reverse ++ takeLine newline stream.rest ∧
      dropLine newline (stream.next line).rest = dropLine newline stream.rest := by
  obtain ⟨read, hread⟩ := stream.next_moves line
  have hnewline := (hread.goesOn hopen).1
  rw [hread.line, hread.rest, takeLine_append_of_notMem hnewline,
    dropLine_append_of_notMem hnewline]
  simp

namespace Steady

variable {stream : Stream}

theorem due (hsteady : stream.Steady) {disturbance : Disturbance} {later : Stream}
    (hdue : stream.due? = some (disturbance, later)) :
    disturbance = .interruption ∧ later.Steady := by
  obtain ⟨hpiece, hinterruptions, hlasting⟩ := hsteady
  unfold due? at hdue
  split at hdue
  · rename_i hdisturbances
    split at hdue
    · cases hdue
      rw [hdisturbances] at hinterruptions
      exact ⟨hinterruptions _ List.mem_cons_self,
        hpiece, fun due hdue => hinterruptions due (.tail _ hdue), hlasting⟩
    · cases hdue
  · cases hdue

theorem after (hsteady : stream.Steady) (piece : Advance) : (stream.after piece).Steady :=
  ⟨hsteady.piece, hsteady.interruptions, hsteady.lasting⟩

/-! ## Lines -/

theorem readLineFrom (line : Bytes) (hsteady : stream.Steady) :
    ∃ later, stream.readLineFrom line =
        (.ok (line.reverse ++ takeLine newline stream.rest), later) ∧
      later.rest = dropLine newline stream.rest ∧ later.Steady := by
  -- the induction follows the pieces: each one either completes the line or leaves what is to be
  -- read of it unchanged
  fun_induction Stream.readLineFrom line stream with
  | case1 line stream next hdue ih =>
      rw [← (due?_measure hdue).1]
      exact ih (hsteady.due hdue).2
  | case2 line stream fault next hdue => cases (hsteady.due hdue).1
  | case3 line stream hdue piece hstop =>
      obtain ⟨hline, hrest⟩ := next_of_stop hsteady.piece hdue hstop
      exact ⟨_, by rw [hline], hrest, hsteady.after piece⟩
  | case4 line stream hdue piece hgoes ih =>
      obtain ⟨hline, hrest⟩ := next_of_go (Bool.eq_false_iff.mpr (not_or.mp hgoes).1)
      obtain ⟨later, hread, hlater, hsteady⟩ := ih (hsteady.after piece)
      refine ⟨later, ?_, hlater.trans hrest, hsteady⟩
      rw [hread, ← hline]
      rfl

theorem readLine (hsteady : stream.Steady) :
    ∃ later, stream.readLine = (.ok (takeLine newline stream.rest), later) ∧
      later.rest = dropLine newline stream.rest ∧ later.Steady := by
  unfold Stream.readLine
  rw [hsteady.lasting]
  simpa using hsteady.readLineFrom []

end Steady

end Stream

/-! ## Reading from lines -/

namespace Progress

open SegmentBench.Stream (newline)

/-- Reading from a list of lines, where the end of the list is the end of the stream.  The
lines that were not needed are returned too. -/
def readLines (expected : Nat) (progress : Progress) :
    List Bytes → Except Failure Progress × List Bytes
  | [] =>
      if progress.count < expected then (.error (.shortInput expected progress.count), [])
      else (.ok progress, [])
  | line :: rest =>
      if progress.count < expected then
        match progress.takeLine expected line with
        | .error failure => (.error failure, rest)
        | .ok next => readLines expected next rest
      else (.ok progress, line :: rest)

theorem readLines_enough {expected : Nat} {progress : Progress}
    (henough : ¬progress.count < expected) (lines : List Bytes) :
    progress.readLines expected lines = (.ok progress, lines) := by
  cases lines <;> simp [readLines, henough]

theorem readLines_linesOf {expected : Nat} {progress : Progress}
    (hmore : progress.count < expected) (bytes : Bytes) :
    progress.readLines expected (linesOf newline bytes) =
      match progress.takeLine expected (SegmentBench.takeLine newline bytes) with
      | .error failure => (.error failure, linesOf newline (dropLine newline bytes))
      | .ok next => next.readLines expected (linesOf newline (dropLine newline bytes)) := by
  by_cases hempty : bytes = []
  · simp [hempty, readLines, hmore, takeLine]
  · rw [linesOf_eq_cons hempty, readLines, if_pos hmore]

end Progress

/-- What is read from a steady stream depends on its lines only, and the lines that were
not needed are still to come. -/
theorem Stream.Steady.readFrom {stream : Stream} (expected : Nat) (progress : Progress)
    (hsteady : stream.Steady) :
    ∃ later, stream.readFrom expected progress =
        ((progress.readLines expected (linesOf newline stream.rest)).1, later) ∧
      linesOf newline later.rest =
        (progress.readLines expected (linesOf newline stream.rest)).2 ∧ later.Steady := by
  fun_induction Stream.readFrom expected progress stream with
  | case1 progress stream hmore fault later hread =>
      obtain ⟨next, hline, -⟩ := hsteady.readLine
      cases hread.symm.trans hline
  | case2 progress stream hmore line later hread failure htaken =>
      obtain ⟨next, hline, hrest, hnext⟩ := hsteady.readLine
      cases hread.symm.trans hline
      rw [Progress.readLines_linesOf hmore, htaken, ← hrest]
      exact ⟨later, rfl, rfl, hnext⟩
  | case3 progress stream hmore line later hread next htaken ih =>
      obtain ⟨_, hline, hrest, hnext⟩ := hsteady.readLine
      cases hread.symm.trans hline
      rw [Progress.readLines_linesOf hmore, htaken, ← hrest]
      exact ih hnext
  | case4 progress stream henough =>
      rw [Progress.readLines_enough henough]
      exact ⟨stream, rfl, rfl, hsteady⟩

end SegmentBench
