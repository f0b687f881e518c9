import SegmentBench.Proofs.Input.AnyStream
import SegmentBench.Proofs.Input.WholeText

/-!
# What a read needs

Some first bytes of a stream settle a read if it leaves unread whatever stands behind them.
For a read that goes on line by line this means that it ends behind one of their complete
lines: in the midst of a line, or at the end of the bytes, it would read on.
-/

namespace SegmentBench

open SegmentBench.Stream (newline)

namespace Progress

variable {expected : Nat} {progress : Progress} {front : Bytes}

def Settled (expected : Nat) (progress : Progress) (front : Bytes) : Prop :=
  ∀ behind : Bytes,
    behind <:+ (progress.readLines expected (linesOf newline (front ++ behind))).2.flatten

theorem settled_of_enough (henough : ¬progress.count < expected) (front : Bytes) :
    Settled expected progress front := by
  intro behind
  rw [readLines_enough henough, flatten_linesOf]
  exact List.suffix_append front behind

theorem readLines_nil_left (expected : Nat) (progress : Progress) :
    (progress.readLines expected []).2 = [] := by
  rw [readLines]
  split <;> rfl

theorem Settled.newline_mem (hmore : progress.count < expected)
    (hsettled : Settled expected progress front) : newline ∈ front := by
  apply Classical.byContradiction
  intro hopen
  have hbehind := hsettled [0]
  have hline : SegmentBench.takeLine newline (front ++ [0]) = front ++ [0] := by
    rw [takeLine_append_of_notMem hopen]
    rfl
  have hrest : dropLine newline (front ++ [0]) = [] := by
    rw [dropLine_append_of_notMem hopen]
    rfl
  rw [readLines_linesOf hmore, hline, hrest, linesOf_nil] at hbehind
  cases htaken : progress.takeLine expected (front ++ [0]) with
  | error failure => simp [htaken] at hbehind
  | ok next => simp [htaken, readLines_nil_left] at hbehind

theorem settled_iff (hmore : progress.count < expected) :
    Settled expected progress front ↔
      newline ∈ front ∧ ∀ next,
        progress.takeLine expected (SegmentBench.takeLine newline front) = .ok next →
          Settled expected next (dropLine newline front) := by
  constructor
  · intro hsettled
    have hmem := hsettled.newline_mem hmore
    refine ⟨hmem, ?_⟩
    intro next htaken behind
    have hbehind := hsettled behind
    rw [readLines_linesOf hmore, takeLine_append_of_mem hmem, dropLine_append_of_mem hmem,
      htaken] at hbehind
    exact hbehind
  · rintro ⟨hmem, hnext⟩ behind
    rw [readLines_linesOf hmore, takeLine_append_of_mem hmem, dropLine_append_of_mem hmem]
    cases htaken : progress.takeLine expected (SegmentBench.takeLine newline front) with
    | error failure =>
        simp only [flatten_linesOf]
        exact List.suffix_append _ behind
    | ok next => exact hnext next htaken behind

theorem Settled.readLines_append (hsettled : Settled expected progress front) (behind : Bytes) :
    (progress.readLines expected (linesOf newline (front ++ behind))).1 =
      (progress.readLines expected (linesOf newline front)).1 := by
  induction hlength : front.length using Nat.strongRecOn generalizing front progress with
  | ind length ih =>
      by_cases hmore : progress.count < expected
      · obtain ⟨hmem, hnext⟩ := (settled_iff hmore).mp hsettled
        rw [readLines_linesOf hmore, readLines_linesOf hmore, takeLine_append_of_mem hmem,
          dropLine_append_of_mem hmem]
        cases htaken : progress.takeLine expected (SegmentBench.takeLine newline front) with
        | error failure => rfl
        | ok next =>
            have hshorter : (dropLine newline front).length < length :=
              hlength ▸ length_dropLine_lt (List.ne_nil_of_mem hmem)
            exact ih _ hshorter (hnext next htaken) rfl
      · rw [readLines_enough hmore, readLines_enough hmore]

end Progress

namespace Request

variable {request : Request} {front : Bytes}

/-- Whatever stands behind the bytes `front` is left unread. -/
def SettledBy (request : Request) (front : Bytes) : Prop :=
  ∀ behind : Bytes,
    behind <:+
      ((Stream.ofBytes (front ++ behind)).readIntegers request.memory request.count).2.rest

theorem settledBy_of_full {fault : AllocationFault}
    (hfull : reserve request.memory request.count = .error fault) (front : Bytes) :
    request.SettledBy front := by
  intro behind
  rw [Stream.readIntegers_of_full hfull]
  exact List.suffix_append front behind

theorem settledBy_iff (hroom : reserve request.memory request.count = .ok ()) :
    request.SettledBy front ↔
      Progress.start.Settled request.count.toNat front := by
  unfold SettledBy Progress.Settled
  simp only [(Stream.steady_ofBytes _).rest_readIntegers hroom]
  rfl

theorem SettledBy.readIntegers_append (hsettled : request.SettledBy front) (behind : Bytes) :
    ((Stream.ofBytes (front ++ behind)).readIntegers request.memory request.count).1 =
      ((Stream.ofBytes front).readIntegers request.memory request.count).1 := by
  cases hroom : reserve request.memory request.count with
  | error fault => rw [Stream.readIntegers_of_full hroom, Stream.readIntegers_of_full hroom]
  | ok =>
      have hlines := ((settledBy_iff hroom).mp hsettled).readLines_append behind
      rw [Stream.readIntegers_eq hroom (Stream.steady_ofBytes _),
        Stream.readIntegers_eq hroom (Stream.steady_ofBytes _)]
      simp only [Stream.ofBytes, hlines]

theorem SettledBy.mono {longer : Bytes} (hsettled : request.SettledBy front)
    (hlonger : front <+: longer) : request.SettledBy longer := by
  obtain ⟨more, rfl⟩ := hlonger
  intro behind
  rw [List.append_assoc]
  exact (List.suffix_append more behind).trans (hsettled (more ++ behind))

theorem SettledBy.length_le {bytes taken : Bytes} {bound : Nat}
    (hsettled : request.SettledBy (bytes.take bound))
    (htaken : bytes = taken ++
      ((Stream.ofBytes bytes).readIntegers request.memory request.count).2.rest) :
    taken.length ≤ bound := by
  have hleft := hsettled (bytes.drop bound)
  rw [List.take_append_drop] at hleft
  have hlength := hleft.length_le
  have hbytes := congrArg List.length htaken
  rw [List.length_drop] at hlength
  rw [List.length_append] at hbytes
  omega

end Request

end SegmentBench
