import SegmentBench.Proofs.Input.Successive

/-!
# Pieces and interruptions

How a steady stream is cut into pieces, and where it is interrupted, is not seen by its
reads: they end as those of a stream that hands out all of its bytes at once.
-/

namespace SegmentBench

namespace Stream

def atOnce (bytes : Bytes) : Stream := ⟨bytes, 0, [], max 1 bytes.length, none⟩

theorem steady_atOnce (bytes : Bytes) : (atOnce bytes).Steady where
  piece := Nat.le_max_left 1 bytes.length
  interruptions := by simp [atOnce]
  lasting := rfl

namespace Steady

variable {stream other : Stream}

theorem rest_readIntegers_congr (hsteady : stream.Steady) (hother : other.Steady)
    (hrest : stream.rest = other.rest) (memory : Memory) (count : UInt64) :
    (stream.readIntegers memory count).2.rest = (other.readIntegers memory count).2.rest := by
  cases hroom : reserve memory count with
  | error fault => simpa only [Stream.readIntegers, hroom] using hrest
  | ok => rw [hsteady.rest_readIntegers hroom, hother.rest_readIntegers hroom, hrest]

theorem steady_readIntegers (hsteady : stream.Steady) (request : Request) :
    (stream.readIntegers request.memory request.count).2.Steady := by
  obtain ⟨outcome, later, taken, hread, hlater, -, -⟩ := hsteady.readIntegers_takes request
  rwa [hread]

theorem readEach_congr (hsteady : stream.Steady) (hother : other.Steady)
    (hrest : stream.rest = other.rest) (requests : List Request) :
    (stream.readEach requests).1 = (other.readEach requests).1 ∧
      (stream.readEach requests).2.rest = (other.readEach requests).2.rest := by
  induction requests generalizing stream other with
  | nil => exact ⟨rfl, hrest⟩
  | cons request requests ih =>
      have hfirst := hsteady.readIntegers_congr hother hrest request.memory request.count
      have hleft := hsteady.rest_readIntegers_congr hother hrest request.memory request.count
      obtain ⟨hlater, hlast⟩ := ih (hsteady.steady_readIntegers request)
        (hother.steady_readIntegers request) hleft
      simp only [readEach]
      exact ⟨by rw [hfirst, hlater], hlast⟩

/-- Neither the size of the pieces nor the interruptions change what a sequence of reads
yields, or which bytes it leaves. -/
theorem readEach_eq_atOnce (hsteady : stream.Steady) (requests : List Request) :
    (stream.readEach requests).1 = ((atOnce stream.rest).readEach requests).1 ∧
      (stream.readEach requests).2.rest =
        ((atOnce stream.rest).readEach requests).2.rest :=
  hsteady.readEach_congr (steady_atOnce stream.rest) rfl requests

/-- Pieces of one byte cut the first number and the blank of three bytes behind it, with an
interruption at the start, two within the blank and one at its end. -/
theorem readEach_eq_atOnce_single_bytes :
    let bytes := Utf8.encode ['-', '1', '2', '\u2003', '3', '\n', 'x']
    let interruptions : List (Nat × Disturbance) :=
      [(0, .interruption), (4, .interruption), (4, .interruption), (6, .interruption)]
    let requests : List Request := [⟨Memory.usual, 2⟩, ⟨Memory.usual, 1⟩]
    (⟨bytes, 0, interruptions, 1, none⟩ : Stream).Steady ∧
      ((⟨bytes, 0, interruptions, 1, none⟩ : Stream).readEach requests).1 =
        ((atOnce bytes).readEach requests).1 ∧
      ((atOnce bytes).readEach requests).1.map Except.toOption = [some [-12, 3], none] := by
  intro bytes interruptions requests
  have hsteady : (⟨bytes, 0, interruptions, 1, none⟩ : Stream).Steady := by
    constructor
    · decide
    · decide
    · rfl
  exact ⟨hsteady, (hsteady.readEach_eq_atOnce requests).1, by decide +kernel⟩

end Steady

end Stream

end SegmentBench
