import SegmentBench.Input.Reader

/-!
# Reads of any stream

Whatever disturbs a stream, a read that succeeds yields as many integers as were asked for,
and one that fails for another reason than a lack of memory has a fault of the input to
tell.
-/

namespace SegmentBench

namespace Progress

variable {expected : Nat} {progress next : Progress}

/-- The invariant of a read: the values are counted, and no more than expected. -/
structure Tallies (expected : Nat) (progress : Progress) : Prop where
  length : progress.values.length = progress.count
  le : progress.count ≤ expected

theorem tallies_start (expected : Nat) : Tallies expected start := ⟨rfl, Nat.zero_le expected⟩

theorem Tallies.push (htallies : Tallies expected progress) (hmore : progress.count ≠ expected)
    (value : Int32) : Tallies expected (progress.push value) where
  length := congrArg (· + 1) htallies.length
  le := Nat.lt_of_le_of_ne htallies.le hmore

theorem Tallies.takeWords {tokens : List (List Char)} (htallies : Tallies expected progress)
    (htaken : progress.takeWords expected tokens = .ok next) : Tallies expected next := by
  fun_induction Progress.takeWords expected progress tokens with
  | case1 progress => cases htaken; exact htallies
  | case2 progress word rest henough => cases htaken; exact htallies
  | case3 progress word rest hmore fault hbad => cases htaken
  | case4 progress word rest hmore value hvalue ih => exact ih (htallies.push hmore value) htaken

theorem Tallies.takeLine {line : Bytes} (htallies : Tallies expected progress)
    (htaken : progress.takeLine expected line = .ok next) : Tallies expected next := by
  unfold Progress.takeLine at htaken
  split at htaken
  · cases htaken
  · split at htaken
    · cases htaken
    · exact htallies.takeWords htaken

/-! ## Faults -/

theorem takeWords_category {failure : Failure} {tokens : List (List Char)}
    (htaken : progress.takeWords expected tokens = .error failure) :
    failure.category = .input := by
  fun_induction Progress.takeWords expected progress tokens with
  | case1 progress => cases htaken
  | case2 progress word rest henough => cases htaken
  | case3 progress word rest hmore fault hbad => cases htaken; rfl
  | case4 progress word rest hmore value hvalue ih => exact ih htaken

theorem takeLine_category {failure : Failure} {line : Bytes}
    (htaken : progress.takeLine expected line = .error failure) :
    failure.category = .input := by
  unfold takeLine at htaken
  split at htaken
  · cases htaken; rfl
  · split at htaken
    · cases htaken; rfl
    · exact takeWords_category htaken

end Progress

namespace Stream

variable {expected : Nat} {progress next : Progress} {stream later : Stream} {memory : Memory}
  {count : UInt64} {failure : Failure}

theorem readFrom_tallies (htallies : progress.Tallies expected)
    (hread : stream.readFrom expected progress = (.ok next, later)) :
    next.Tallies expected ∧ next.count = expected := by
  fun_induction readFrom expected progress stream with
  | case1 => cases hread
  | case2 => cases hread
  | case3 progress stream hmore line later hline next htaken ih =>
      exact ih (htallies.takeLine htaken) hread
  | case4 progress stream henough =>
      cases hread
      exact ⟨htallies, Nat.le_antisymm htallies.le (Nat.not_lt.mp henough)⟩

theorem readFrom_category
    (hread : stream.readFrom expected progress = (.error failure, later)) :
    failure.category = .input := by
  fun_induction readFrom expected progress stream with
  | case1 => cases hread; rfl
  | case2 progress stream hmore line later hline failure htaken =>
      cases hread
      exact Progress.takeLine_category htaken
  | case3 progress stream hmore line later hline next htaken ih => exact ih hread
  | case4 => cases hread

theorem length_of_readIntegers {values : List Int32}
    (hread : (stream.readIntegers memory count).1 = .ok values) :
    values.length = count.toNat := by
  unfold readIntegers at hread
  split at hread
  · cases hread
  · split at hread
    · cases hread
    · rename_i progress later hfrom
      cases hread
      obtain ⟨htallies, hcount⟩ := readFrom_tallies (Progress.tallies_start _) hfrom
      rw [List.length_reverse, htallies.length, hcount]

theorem readIntegers_of_full {fault : AllocationFault}
    (hfull : reserve memory count = .error fault) :
    stream.readIntegers memory count = (.error (.allocation count fault), stream) := by
  simp only [readIntegers, hfull]

theorem category_of_readIntegers (hroom : reserve memory count = .ok ())
    (hread : (stream.readIntegers memory count).1 = .error failure) :
    failure.category = .input := by
  simp only [readIntegers, hroom] at hread
  split at hread
  · rename_i hfrom
    cases hread
    exact readFrom_category hfrom
  · cases hread

end Stream

end SegmentBench
