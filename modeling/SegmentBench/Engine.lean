import SegmentBench.Input.Reader
import SegmentBench.Monitor

/-!
# Running a benchmark

A run reads its integers, repeats the computation over them, and reports on it.
What only the outside knows, the times and the readings of the process, is given to
it.
-/

namespace SegmentBench

structure Timing where
  elapsed : Duration
  startedAt : Timestamp
  deriving DecidableEq, Repr

structure Readings where
  loaded : Usage
  complete : Usage
  final : Usage
  deriving DecidableEq, Repr

/-- The result of the last of `count` runs over the same values, which are all alike. -/
def Algorithm.repeated (algorithm : Algorithm) (values : List Int32) (count : UInt64) :
    Option Int64 :=
  if count = 0 then none else algorithm.sum? values

theorem Algorithm.repeated_eq_lastSum (algorithm : Algorithm) (values : List Int32)
    (count : UInt64) :
    algorithm.repeated values count = algorithm.lastSum values none count.toNat := by
  unfold repeated
  split
  · rename_i zero
    simp [zero, lastSum]
  · rename_i nonzero
    have positive : count.toNat ≠ 0 := fun zero =>
      nonzero (UInt64.toNat_inj.mp (by simpa using zero))
    obtain ⟨before, eq⟩ := Nat.exists_eq_succ_of_ne_zero positive
    rw [eq, lastSum_succ]

namespace Engine

def note (level : Level) (message : String) : Event := ⟨level, Event.engine, message⟩

/-! ## What a run tells -/

def opening (settings : Settings) (name : String) : List Event :=
  (if settings.monitor then [note .info "🔍 System monitoring enabled"] else [])
    ++ [note .info
      ("📥 Reading " ++ Numeral.natural settings.inputSize.toNat ++ " integers from " ++ name)]

def valuesText (values : List Int32) : String :=
  "[" ++ String.intercalate ", " (values.map fun value => Numeral.integer value.toInt) ++ "]"

def loaded (settings : Settings) (values : List Int32) (monitor : Monitor) (usage : Usage) :
    List Event × Monitor :=
  let (found, monitor) := monitor.tellPhase "Input loaded" usage
  (note .debug ("Input: " ++ valuesText values) :: found
    ++ [note .info
      ("⏱️  Running " ++ settings.algorithm.name ++ " kadane "
        ++ Numeral.natural settings.iterations.toNat ++ " times over "
        ++ Numeral.natural values.length ++ " integers")], monitor)

def optionText (text : Option String) : String :=
  match text with
  | none => "None"
  | some text => "Some(" ++ text ++ ")"

def closing (report : Report) (monitor : Monitor) (complete final : Usage) :
    List Event × Monitor :=
  let (found, monitor) := monitor.tellPhase "Benchmark complete" complete
  let (last, monitor) := monitor.tellFinal final
  (note .info
      ("✅ Finished in " ++ report.elapsed.text ++ " (" ++ Fixed.text 2 report.perIteration
        ++ " ns/iteration)")
    :: note .debug
      ("Last result: "
        ++ optionText (report.result.map fun value => Numeral.integer value.toInt))
    :: found ++ last, monitor)

/-! ## The computation -/

def measured (algorithm : Algorithm) (iterations : UInt64) (values : List Int32)
    (result : Option Int64) (timing : Timing) : Report where
  algorithm := algorithm
  inputSize := UInt64.ofNat values.length
  iterations := iterations
  result := result
  elapsed := timing.elapsed
  seconds := timing.elapsed.inSeconds
  perIteration := timing.elapsed.share iterations
  startedAt := timing.startedAt

def measure (algorithm : Algorithm) (iterations : UInt64) (values : List Int32)
    (timing : Timing) : Report :=
  measured algorithm iterations values (algorithm.repeated values iterations) timing

/-! ## A run -/

structure Run where
  events : List Event
  outcome : Except Failure Report
  stream : Stream
  monitor : Monitor

def run (memory : Memory) (settings : Settings) (source : Source) (monitor : Monitor)
    (timing : Timing) (readings : Readings) : Run :=
  let start := opening settings source.name
  match source.stream.readIntegers memory settings.inputSize with
  | (.error failure, later) => ⟨start, .error failure, later, monitor⟩
  | (.ok values, later) =>
      let (ready, monitor) := loaded settings values monitor readings.loaded
      let report := measure settings.algorithm settings.iterations values timing
      let (done, monitor) := closing report monitor readings.complete readings.final
      ⟨start ++ ready ++ done, .ok report, later, monitor⟩

structure Surroundings where
  memory : Memory
  timing : Timing
  readings : Readings

def runEach (settings : Settings) (source : Source) (monitor : Monitor) :
    List Surroundings → List Run
  | [] => []
  | around :: rest =>
      let run := run around.memory settings source monitor around.timing around.readings
      run :: runEach settings { source with stream := run.stream } run.monitor rest

end Engine

end SegmentBench
