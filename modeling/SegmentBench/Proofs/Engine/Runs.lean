import SegmentBench.Engine
import SegmentBench.Proofs.Input.AnyStream
import SegmentBench.Proofs.Segment.Greatest

/-!
# Successive runs

Runs over one source read its stream in turn.  A run whose read fails passes the failure on
and tells nothing of a computation; any other reports the greatest sum of what it read.
None of this depends on the monitor.
-/

namespace SegmentBench

def Report.findings (report : Report) : Algorithm × UInt64 × UInt64 × Option Int64 :=
  (report.algorithm, report.inputSize, report.iterations, report.result)

/-! ## The loop -/

namespace Algorithm

variable {algorithm : Algorithm} {values : List Int32} {count : Nat}

theorem lastSum_eq_none_iff :
    algorithm.lastSum values none count = none ↔
      count = 0 ∨ algorithm = .classic ∧ values = [] := by
  cases count with
  | zero => simp [lastSum]
  | succ count => simp [lastSum_succ, sum?_eq_none_iff]

theorem sum?_of_lastSum {sum : Int64} (hlast : algorithm.lastSum values none count = some sum) :
    algorithm.sum? values = some sum := by
  cases count with
  | zero => cases hlast
  | succ count => rwa [lastSum_succ] at hlast

end Algorithm

namespace Engine

/-! ## What is told -/

def running : String := "⏱️  Running "

def finished : String := "✅ Finished in "

def statistics : String := "📊 "

def Tells (events : List Event) (start : String) : Prop :=
  ∃ event ∈ events, start.toList <+: event.message.toList

theorem tells_append {first second : List Event} {start : String} :
    Tells (first ++ second) start ↔ Tells first start ∨ Tells second start := by
  simp [Tells, or_and_right, exists_or]

theorem head?_of_begins {start text : List Char} (hbegins : start <+: text)
    (hnonempty : start ≠ []) : text.head? = start.head? := by
  obtain ⟨rest, rfl⟩ := hbegins
  cases start with
  | nil => exact absurd rfl hnonempty
  | cons c start => rfl

theorem head?_of_mem_opening {settings : Settings} {name : String} {event : Event}
    (hevent : event ∈ opening settings name) :
    event.message.toList.head? ∈ [some '🔍', some '📥'] := by
  unfold opening at hevent
  rcases List.mem_append.mp hevent with hmonitor | hreading
  · split at hmonitor
    · cases List.mem_singleton.mp hmonitor
      decide
    · cases hmonitor
  · cases List.mem_singleton.mp hreading
    simp [note]

theorem opening_silent (settings : Settings) (name : String) {start : String}
    (hstart : start ∈ [running, finished, statistics]) :
    ¬Tells (opening settings name) start := by
  rintro ⟨event, hevent, hbegins⟩
  -- the first character alone tells these messages apart
  have hhead := head?_of_mem_opening hevent
  simp only [List.mem_cons, List.not_mem_nil, or_false] at hstart
  rcases hstart with rfl | rfl | rfl <;>
    rw [head?_of_begins hbegins (by decide)] at hhead <;> revert hhead <;> decide

theorem tells_running (settings : Settings) (values : List Int32) (monitor : Monitor)
    (usage : Usage) : Tells (loaded settings values monitor usage).1 running := by
  refine ⟨_, List.mem_append_right _ (List.mem_singleton_self _), ?_⟩
  simp [note, running, List.append_assoc]

theorem tells_finished (report : Report) (monitor : Monitor) (complete final : Usage) :
    Tells (closing report monitor complete final).1 finished := by
  refine ⟨_, List.mem_cons_self, ?_⟩
  simp [note, finished]

/-! ## One run -/

def Surroundings.request (settings : Settings) (around : Surroundings) : Request :=
  ⟨around.memory, settings.inputSize⟩

/-- How a run answers to the outcome of its read. -/
inductive Answers (settings : Settings) : Except Failure (List Int32) → Run → Prop where
  | failed {failure : Failure} {run : Run} (outcome : run.outcome = .error failure)
      (silent : ∀ start ∈ [running, finished, statistics], ¬Tells run.events start) :
      Answers settings (.error failure) run
  | reported {values : List Int32} {run : Run} {report : Report}
      (outcome : run.outcome = .ok report) (algorithm : report.algorithm = settings.algorithm)
      (inputSize : report.inputSize = settings.inputSize)
      (iterations : report.iterations = settings.iterations)
      (last : report.result =
        settings.algorithm.lastSum values none settings.iterations.toNat)
      (missing : report.result = none ↔
        settings.iterations = 0 ∨ settings.algorithm = .classic ∧ settings.inputSize = 0)
      (greatest : settings.inputSize.toNat ≤ 2 ^ 32 + 2 → ∀ sum, report.result = some sum →
        IsGreatest (settings.algorithm.sums (values.map Int32.toInt)) sum.toInt)
      (told : ∀ start ∈ [running, finished], Tells run.events start) :
      Answers settings (.ok values) run

section

variable {memory : Memory} {settings : Settings} {source : Source} {monitor : Monitor}
  {timing : Timing} {readings : Readings}

theorem stream_run :
    (run memory settings source monitor timing readings).stream =
      (source.stream.readIntegers memory settings.inputSize).2 := by
  unfold run
  split
  · rename_i hread
    rw [hread]
  · rename_i hread
    rw [hread]

theorem outcome_run :
    (run memory settings source monitor timing readings).outcome =
      (source.stream.readIntegers memory settings.inputSize).1.map fun values =>
        measure settings.algorithm settings.iterations values timing := by
  unfold run
  split
  · rename_i hread
    rw [hread]
    rfl
  · rename_i hread
    rw [hread]
    rfl

theorem events_of_failed {failure : Failure}
    (hread : (source.stream.readIntegers memory settings.inputSize).1 = .error failure) :
    (run memory settings source monitor timing readings).events =
      opening settings source.name := by
  unfold run
  split
  · rfl
  · rename_i hok
    rw [hok] at hread
    cases hread

theorem events_of_read {values : List Int32}
    (hread : (source.stream.readIntegers memory settings.inputSize).1 = .ok values) :
    (run memory settings source monitor timing readings).events =
      opening settings source.name ++ (loaded settings values monitor readings.loaded).1 ++
        (closing (measure settings.algorithm settings.iterations values timing)
          (loaded settings values monitor readings.loaded).2 readings.complete
          readings.final).1 := by
  unfold run
  split
  · rename_i herror
    rw [herror] at hread
    cases hread
  · rename_i hok
    rw [hok] at hread
    cases hread
    rfl

def found (settings : Settings) (values : List Int32) :
    Algorithm × UInt64 × UInt64 × Option Int64 :=
  (settings.algorithm, UInt64.ofNat values.length, settings.iterations,
    settings.algorithm.repeated values settings.iterations)

theorem findings_run :
    (run memory settings source monitor timing readings).outcome.map Report.findings =
      (source.stream.readIntegers memory settings.inputSize).1.map (found settings) := by
  rw [outcome_run]
  cases (source.stream.readIntegers memory settings.inputSize).1 <;> rfl

theorem run_answers :
    Answers settings (source.stream.readIntegers memory settings.inputSize).1
      (run memory settings source monitor timing readings) := by
  cases hread : (source.stream.readIntegers memory settings.inputSize).1 with
  | error failure =>
      refine .failed (by rw [outcome_run, hread]; rfl) ?_
      intro start hstart
      rw [events_of_failed hread]
      exact opening_silent settings source.name hstart
  | ok values =>
      have hlength : values.length = settings.inputSize.toNat := Stream.length_of_readIntegers hread
      have hsize : UInt64.ofNat values.length = settings.inputSize := by
        rw [hlength, UInt64.ofNat_toNat]
      have hzero (word : UInt64) : word.toNat = 0 ↔ word = 0 := UInt64.toNat_inj (b := 0)
      have hempty : values = [] ↔ settings.inputSize = 0 := by
        rw [← List.length_eq_zero_iff, hlength, hzero]
      have hreport : (run memory settings source monitor timing readings).outcome =
          .ok (measure settings.algorithm settings.iterations values timing) := by
        rw [outcome_run, hread]
        rfl
      have hlast : (measure settings.algorithm settings.iterations values timing).result =
          settings.algorithm.lastSum values none settings.iterations.toNat :=
        Algorithm.repeated_eq_lastSum _ _ _
      refine .reported hreport rfl hsize rfl hlast ?missing ?greatest ?told
      case missing =>
        rw [hlast, Algorithm.lastSum_eq_none_iff, hzero, hempty]
      case greatest =>
        intro hshort sum hsum
        exact Algorithm.isGreatest_of_sum? (hlength ▸ hshort)
          (Algorithm.sum?_of_lastSum (hlast ▸ hsum))
      case told =>
        intro start hstart
        rw [events_of_read hread, tells_append, tells_append]
        simp only [List.mem_cons, List.not_mem_nil, or_false] at hstart
        rcases hstart with rfl | rfl
        · exact .inl (.inr (tells_running settings values monitor readings.loaded))
        · exact .inr (tells_finished _ _ _ _)

end

/-! ## Several runs -/

variable {settings : Settings} {source : Source} {monitor : Monitor}
  {surroundings : List Surroundings}

theorem runEach_answers :
    List.Forall₂ (Answers settings)
      (source.stream.readEach (surroundings.map (Surroundings.request settings))).1
      (runEach settings source monitor surroundings) := by
  induction surroundings generalizing source monitor with
  | nil => exact .nil
  | cons around rest ih =>
      simp only [runEach, List.map_cons, Stream.readEach, Surroundings.request, stream_run]
      exact .cons run_answers (@ih ⟨source.name, _⟩ _)

theorem findings_runEach :
    (runEach settings source monitor surroundings).map
        (fun run => run.outcome.map Report.findings) =
      (source.stream.readEach (surroundings.map (Surroundings.request settings))).1.map
        (fun outcome => outcome.map (found settings)) := by
  induction surroundings generalizing source monitor with
  | nil => rfl
  | cons around rest ih =>
      simp only [runEach, List.map_cons, Stream.readEach, Surroundings.request, findings_run,
        ih, stream_run]

theorem map_request (settings : Settings) (surroundings : List Surroundings) :
    surroundings.map (Surroundings.request settings) =
      (surroundings.map Surroundings.memory).map fun memory => ⟨memory, settings.inputSize⟩ := by
  rw [List.map_map]
  rfl

/-- Each run answers to a read of what those before it left, and neither what it finds nor
how it fails depends on whether it is monitored, on its times or on the readings. -/
theorem runEach_reports (settings : Settings) (source : Source) (monitor : Monitor)
    (surroundings : List Surroundings) :
    List.Forall₂ (Answers settings)
        (source.stream.readEach (surroundings.map (Surroundings.request settings))).1
        (runEach settings source monitor surroundings) ∧
      ∀ (flag : Bool) (other : Monitor) (others : List Surroundings),
        others.map Surroundings.memory = surroundings.map Surroundings.memory →
        (runEach { settings with monitor := flag } source other others).map
            (fun run => run.outcome.map Report.findings) =
          (runEach settings source monitor surroundings).map
            (fun run => run.outcome.map Report.findings) := by
  refine ⟨runEach_answers, ?_⟩
  intro flag other others hmemory
  rw [findings_runEach, findings_runEach, map_request, map_request, hmemory]
  rfl

/-- Two runs over five integers, with and without a monitor: the second one is an integer
short. -/
theorem runEach_reports_twice :
    let settings : Settings := ⟨4, 3, .classic, none, .none, false⟩
    let source : Source :=
      ⟨"memory", Stream.ofBytes [0x2D, 0x33, 0x20, 0x2D, 0x31, 0x0A, 0x2D, 0x32, 0x0A, 0x37, 0x0A,
        0x38]⟩
    let usage : Usage := ⟨12, 4194304, 8388608, ⟨1, 0⟩⟩
    let surroundings : List Surroundings :=
      List.replicate 2 ⟨Memory.usual, ⟨⟨0, 70⟩, ⟨0, 0⟩⟩, ⟨usage, usage, usage⟩⟩
    settings.inputSize.toNat ≤ 2 ^ 32 + 2 ∧
      ((source.stream.readEach (surroundings.map (Surroundings.request settings))).1.map
        Except.toOption = [some [-3, -1, -2], none]) ∧
      List.Forall₂ (Answers settings)
        (source.stream.readEach (surroundings.map (Surroundings.request settings))).1
        (runEach settings source (Monitor.make false) surroundings) ∧
      (runEach { settings with monitor := true } source (Monitor.make true) surroundings).map
          (fun run => run.outcome.map Report.findings) =
        (runEach settings source (Monitor.make false) surroundings).map
          (fun run => run.outcome.map Report.findings) := by
  intro settings source usage surroundings
  have hreports := runEach_reports settings source (Monitor.make false) surroundings
  exact ⟨by decide, by decide +kernel, hreports.1,
    hreports.2 true (Monitor.make true) surroundings rfl⟩

end Engine

end SegmentBench
