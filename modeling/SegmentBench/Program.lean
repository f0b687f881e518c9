import SegmentBench.Arguments.Parse
import SegmentBench.Engine
import SegmentBench.Log.Filter
import SegmentBench.Resolve

/-!
# The program

A whole run of the program, from its arguments to its exit code and what it writes.
Everything that it meets outside of itself is one value, its world.
-/

namespace SegmentBench

structure World where
  arguments : List Bytes
  environment : Environment
  files : Path → Except IoFault Entry
  input : Stream
  memory : Memory
  timing : Timing
  readings : Readings

inductive Diagnostic where
  | event (format : LogFormat) (event : Event)
  | line (text : String)
  deriving DecidableEq, Repr

structure Outcome where
  exitCode : UInt8
  output : String
  diagnostics : List Diagnostic
  deriving DecidableEq, Repr

structure Trouble where
  context : Option String
  failure : Failure
  deriving DecidableEq, Repr

def Trouble.text (trouble : Trouble) : String :=
  match trouble.context with
  | none => trouble.failure.chain
  | some context => context ++ ": " ++ trouble.failure.chain

namespace Program

/-! ## What the program tells of its values -/

def flagText (value : Bool) : String := if value then "true" else "false"

def fieldsText (name : String) (fields : List (String × String)) : String :=
  name ++ " \x7b " ++ String.intercalate ", " (fields.map fun field => field.1 ++ ": " ++ field.2)
    ++ " \x7d"

def commandLineText (line : CommandLine) : String :=
  fieldsText "CliConfig"
    [("iterations", Engine.optionText (line.iterations.map Settings.wordText)),
      ("input_size", Engine.optionText (line.inputSize.map Settings.wordText)),
      ("algorithm", Engine.optionText (line.algorithm.map Algorithm.title)),
      ("input", Engine.optionText (line.input.map Path.quoted)),
      ("config", Engine.optionText (line.config.map Path.quoted)),
      ("report", Engine.optionText (line.report.map ReportFormat.title)),
      ("monitor", flagText line.monitor),
      ("verbose", flagText line.verbose),
      ("log_format", line.logFormat.title)]

def settingsText (settings : Settings) : String :=
  fieldsText "BenchSettings"
    [("iterations", Settings.wordText settings.iterations),
      ("input_size", Settings.wordText settings.inputSize),
      ("algorithm", settings.algorithm.title),
      ("input_path", Engine.optionText (settings.inputPath.map Path.quoted)),
      ("report", settings.report.title),
      ("monitor", flagText settings.monitor)]

def note (level : Level) (message : String) : Event := ⟨level, Event.program, message⟩

def started (line : CommandLine) : Event :=
  note .debug ("CLI config: " ++ commandLineText line)

def resolved (settings : Settings) : Event :=
  note .debug ("Resolved settings: " ++ settingsText settings)

def failed (trouble : Trouble) : Event :=
  note .error
    ("❌ Benchmark failed: " ++ trouble.text ++ " (Category: " ++ trouble.failure.category.title
      ++ ", Severity: " ++ trouble.failure.severity.title ++ ")")

def failureLines (trouble : Trouble) : List String :=
  ["❌ " ++ trouble.text, "💡 " ++ trouble.failure.suggestion]

/-! ## Phases -/

def configurationTrouble (failure : Failure) : Trouble :=
  ⟨some "Invalid configuration", failure⟩

def openingTrouble (path : Path) (fault : IoFault) : Trouble :=
  ⟨some ("Failed to open input file '" ++ path.display ++ "'"), .io fault⟩

def streamName : String := "stdin"

def source (world : World) (settings : Settings) : Except Trouble Source :=
  match settings.inputPath with
  | none => .ok ⟨streamName, world.input⟩
  | some path =>
      match world.files path with
      | .error fault => .error (openingTrouble path fault)
      | .ok entry => .ok (Source.ofEntry path entry)

structure Execution where
  events : List Event
  result : Except Trouble (Option String)

def benchmark (world : World) (settings : Settings) : Execution :=
  match source world settings with
  | .error trouble => ⟨[], .error trouble⟩
  | .ok source =>
      let run :=
        Engine.run world.memory settings source (Monitor.make settings.monitor) world.timing
          world.readings
      match run.outcome with
      | .error failure => ⟨run.events, .error ⟨none, failure⟩⟩
      | .ok report => ⟨run.events, .ok (report.render settings.report)⟩

def execute (world : World) (line : CommandLine) : Execution :=
  let start := started line :: line.loadingEvents
  match line.resolve world.environment fun path => Files.readText (world.files path) with
  | .error failure => ⟨start, .error (configurationTrouble failure)⟩
  | .ok settings =>
      let execution := benchmark world settings
      ⟨start ++ resolved settings :: execution.events, execution.result⟩

/-! ## The whole run -/

def logged (filter : Filter) (format : LogFormat) (events : List Event) : List Diagnostic :=
  (events.filter fun event => filter.passes event).map fun event => .event format event

def conclude (filter : Filter) (format : LogFormat) (execution : Execution) : Outcome :=
  match execution.result with
  | .ok rendered =>
      ⟨0, (rendered.map fun text => text ++ "\n").getD "",
        logged filter format execution.events⟩
  | .error trouble =>
      ⟨trouble.failure.exitCode, "",
        logged filter format (execution.events ++ [failed trouble])
          ++ (failureLines trouble).map .line⟩

def misuse : UInt8 := 2

def advice : List String := ["", Help.usage, "", "For more information, try '--help'."]

def stopped : Stop → Outcome
  | .help detailed => ⟨0, Help.text detailed, []⟩
  | .fault fault => ⟨misuse, "", .line fault.output :: advice.map .line⟩

def run (world : World) : Outcome :=
  match Arguments.parse world.arguments with
  | .error stop => stopped stop
  | .ok line =>
      conclude (Filter.choose world.environment line.verbose) line.logFormat
        (execute world line)

end Program

end SegmentBench
