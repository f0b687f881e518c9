import SegmentBench.Arguments.CommandLine
import SegmentBench.Log.Event

/-!
# Resolving settings

The settings of a command line: the defaults, with the configuration file in place
of them, with the command line in place of both.
-/

namespace SegmentBench.CommandLine

def loadingEvents (line : CommandLine) : List Event :=
  match line.config with
  | none => []
  | some path =>
      [⟨.info, Event.loading, "📁 Loading configuration from: " ++ path.display⟩]

def configured (line : CommandLine) (environment : Environment)
    (readText : Path → Except IoFault (List Char)) : Except Failure Settings :=
  match line.config with
  | none => .ok Settings.default
  | some path => do
      let config ← Config.ofFile environment path (readText path)
      config.validate
      .ok (Settings.default.merge config)

def resolve (line : CommandLine) (environment : Environment)
    (readText : Path → Except IoFault (List Char)) : Except Failure Settings := do
  let settings := line.apply (← line.configured environment readText)
  settings.validate
  .ok settings

end SegmentBench.CommandLine
