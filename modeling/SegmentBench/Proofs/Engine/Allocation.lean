import SegmentBench.Proofs.Engine.Runs
import SegmentBench.Proofs.Segment.Overflow
import SegmentBench.Proofs.Settings.Opening

/-!
# Room for the integers

A buffer is refused because it would be greater than any buffer may be, or because the memory has
no room for it.  The sizes that settings may have are exactly those for which the first cannot
happen, so a benchmark of resolved settings fails for want of room only where the memory refuses.
-/

namespace SegmentBench

variable {memory : Memory} {count requested : UInt64} {fault : AllocationFault}

/-! ## Reservations -/

structure Memory.Refuses (memory : Memory) (count : UInt64) : Prop where
  needed : count ≠ 0
  refused : memory (4 * count.toNat) = false

theorem Memory.refuses_iff :
    memory.Refuses count ↔ ¬(count = 0 ∨ memory (Settings.integerBytes * count.toNat) = true) := by
  rw [not_or, Bool.not_eq_true]
  exact ⟨fun hrefuses => ⟨hrefuses.needed, hrefuses.refused⟩, fun hboth => ⟨hboth.1, hboth.2⟩⟩

theorem Settings.le_greatestInputSize_iff_bytes (size : UInt64) :
    size ≤ greatestInputSize ↔ integerBytes * size.toNat ≤ greatestBuffer := by
  have hgreatest : greatestInputSize.toNat = greatestBuffer / integerBytes := by decide
  rw [UInt64.le_iff_toNat_le, hgreatest, Nat.le_div_iff_mul_le (by decide), Nat.mul_comm]

theorem reserve_of_le (hsize : count ≤ Settings.greatestInputSize) :
    reserve memory count = .error fault ↔ fault = .refused ∧ memory.Refuses count := by
  have hbytes := Nat.not_lt.mpr ((Settings.le_greatestInputSize_iff_bytes count).mp hsize)
  rw [Memory.refuses_iff]
  simp only [reserve, if_neg hbytes]
  split
  · rename_i hroom
    simp [hroom]
  · rename_i hfull
    simp only [hfull, not_false_eq_true, and_true, Except.error.injEq]
    exact eq_comm

theorem reserve_of_not_le (hsize : ¬count ≤ Settings.greatestInputSize) :
    reserve memory count = .error .capacityOverflow := by
  rw [Settings.le_greatestInputSize_iff_bytes, Nat.not_le] at hsize
  simp only [reserve, if_pos hsize]

/-! ## Reads and runs -/

/-- Nothing but the reservation fails for want of room. -/
theorem Stream.readIntegers_eq_allocation_iff {stream : Stream} :
    (stream.readIntegers memory count).1 = .error (.allocation requested fault) ↔
      requested = count ∧ reserve memory count = .error fault := by
  cases hreserve : reserve memory count with
  | error refusal =>
      rw [readIntegers_of_full hreserve]
      simp only [Except.error.injEq, Failure.allocation.injEq]
      exact and_congr_left' eq_comm
  | ok =>
      constructor
      · intro hread
        cases category_of_readIntegers hreserve hread
      · rintro ⟨-, hfull⟩
        cases hfull

theorem Settings.le_greatestInputSize_iff_reads (size : UInt64) :
    size ≤ greatestInputSize ↔
      ∀ memory (stream : Stream) requested,
        (stream.readIntegers memory size).1 ≠ .error (.allocation requested .capacityOverflow) := by
  constructor
  · intro hsize memory stream requested hread
    obtain ⟨-, hfull⟩ := Stream.readIntegers_eq_allocation_iff.mp hread
    cases ((reserve_of_le hsize).mp hfull).1
  · intro hreads
    by_contra hsize
    exact hreads Memory.usual (Stream.ofBytes []) size
      (Stream.readIntegers_eq_allocation_iff.mpr ⟨rfl, reserve_of_not_le hsize⟩)

namespace Engine

variable {settings : Settings} {source : Source} {monitor : Monitor} {timing : Timing}
  {readings : Readings}

theorem outcome_run_eq_error_iff {failure : Failure} :
    (run memory settings source monitor timing readings).outcome = .error failure ↔
      (source.stream.readIntegers memory settings.inputSize).1 = .error failure := by
  rw [outcome_run]
  cases (source.stream.readIntegers memory settings.inputSize).1 <;> simp [Except.map]

theorem run_eq_allocation_iff (hsize : settings.inputSize ≤ Settings.greatestInputSize) :
    (run memory settings source monitor timing readings).outcome =
        .error (.allocation requested fault) ↔
      requested = settings.inputSize ∧ fault = .refused ∧ memory.Refuses settings.inputSize := by
  rw [outcome_run_eq_error_iff, Stream.readIntegers_eq_allocation_iff, reserve_of_le hsize]

/-- The settings admit exactly the sizes for which no read of any stream asks for a buffer that
is too great.  Once they are resolved, a run fails for want of room exactly if the memory refuses
the buffer, and tells the size that they have. -/
theorem allocation_only_refused :
    (∀ settings : Settings, settings.inputPath = none →
      (settings.validate = .ok () ↔
        ∀ memory (stream : Stream) requested,
          (stream.readIntegers memory settings.inputSize).1 ≠
            .error (.allocation requested .capacityOverflow)) ∧
      (settings.validate = .ok () ↔ 4 * settings.inputSize.toNat ≤ 2 ^ 63 - 1)) ∧
    ∀ (line : CommandLine) environment readText settings,
      line.resolve environment readText = .ok settings →
      ∀ memory source monitor timing readings requested fault,
        (run memory settings source monitor timing readings).outcome =
            .error (.allocation requested fault) ↔
          requested = settings.inputSize ∧ fault = .refused ∧
            memory.Refuses settings.inputSize := by
  refine ⟨?_, ?_⟩
  · intro settings hpath
    rw [Settings.validate_eq_ok_iff hpath]
    exact ⟨Settings.le_greatestInputSize_iff_reads _, Settings.le_greatestInputSize_iff_bytes _⟩
  · intro line environment readText settings hresolve
    have hadmitted := CommandLine.admitted_of_resolve hresolve
    intros
    exact run_eq_allocation_iff hadmitted.size

/-- The greatest size that is admitted is more than the memory has room for, and at the next one
the buffer is too great. -/
theorem allocation_only_refused_greatest :
    let line : CommandLine :=
      { CommandLine.empty with inputSize := some 2305843009213693951 }
    let settings : Settings := { Settings.default with inputSize := 2305843009213693951 }
    let source : Source := ⟨"memory", Stream.ofBytes [0x37, 0x0A]⟩
    let usage : Usage := ⟨12, 4194304, 8388608, ⟨1, 0⟩⟩
    settings.validate = .ok () ∧
      { settings with inputSize := 2305843009213693952 }.validate ≠ .ok () ∧
      line.resolve (fun _ => none) (fun _ => .error .notText) = .ok settings ∧
      (run Memory.usual settings source (Monitor.make false) ⟨⟨0, 70⟩, ⟨0, 0⟩⟩
          ⟨usage, usage, usage⟩).outcome =
        .error (.allocation 2305843009213693951 .refused) := by
  intro line settings source usage
  obtain ⟨hsizes, hruns⟩ := allocation_only_refused
  have hresolve : line.resolve (fun _ => none) (fun _ => .error .notText) = .ok settings := by
    decide +kernel
  refine ⟨(hsizes settings rfl).2.mpr (by decide), ?_, hresolve, ?_⟩
  · intro hvalid
    exact absurd ((hsizes { settings with inputSize := 2305843009213693952 } rfl).2.mp hvalid)
      (by decide)
  · exact (hruns line _ _ settings hresolve _ _ _ _ _ _ _).mpr
      ⟨rfl, rfl, by decide, by decide⟩

end Engine

end SegmentBench
