import SegmentBench.Arguments.Flag
import SegmentBench.Settings
import SegmentBench.Text.Blank
import SegmentBench.Text.Plain

/-!
# Command lines

What the command line asks for, the faults of one, and how the value of a flag
enters it.
-/

namespace SegmentBench

structure CommandLine where
  iterations : Option UInt64
  inputSize : Option UInt64
  algorithm : Option Algorithm
  input : Option Path
  config : Option Path
  report : Option ReportFormat
  monitor : Bool
  verbose : Bool
  logFormat : LogFormat
  deriving DecidableEq, Repr

inductive ArgumentFault where
  | unexpected (argument : String)
  | repeated (flag : Flag)
  | missingValue (flag : Flag)
  | needlessValue (flag : Flag) (value : String)
  | unknownChoice (flag : Flag) (value : String)
  | badNumber (flag : Flag) (value : String) (fault : Numeral.Fault)
  | notText
  deriving DecidableEq, Repr

namespace ArgumentFault

inductive Part where
  | fixed (text : String)
  | given (text : String)
  deriving DecidableEq, Repr

/-- What was given is shown without terminal controls.  Each piece of it is put in a
style of its own, whose end also ends a sequence that the piece leaves unfinished. -/
def Part.text (resumes : Bool) : Part → String
  | .fixed text => text
  | .given text => String.ofList (Plain.text resumes text.toList)

def inQuotes (text : String) : String := "'" ++ text ++ "'"

def parts : ArgumentFault → List Part
  | .unexpected argument => [.fixed "unexpected argument '", .given argument, .fixed "' found"]
  | .repeated flag =>
      [.fixed ("the argument " ++ inQuotes flag.written ++ " cannot be used multiple times")]
  | .missingValue flag =>
      [.fixed ("a value is required for " ++ inQuotes flag.written ++ " but none was supplied")]
  | .needlessValue flag value =>
      [.fixed "unexpected value '", .given value,
        .fixed ("' for " ++ inQuotes flag.written ++ " found; no more were expected")]
  | .unknownChoice flag value =>
      [.fixed "invalid value '", .given value, .fixed ("' for " ++ inQuotes flag.written)]
  | .badNumber flag value fault =>
      [.fixed "invalid value '", .given value,
        .fixed ("' for " ++ inQuotes flag.written ++ ": " ++ fault.message)]
  | .notText => [.fixed "invalid UTF-8 was detected in one or more arguments"]

def text (resumes : Bool) (fault : ArgumentFault) : String :=
  "error: " ++ String.join (fault.parts.map (Part.text resumes))

/-- The message as it is kept, in which a shown blank ends a sequence. -/
def message (fault : ArgumentFault) : String := fault.text false

def output (fault : ArgumentFault) : String := fault.text true

def firstLine (fault : ArgumentFault) : String :=
  String.ofList (Blank.firstLine fault.message.toList)

end ArgumentFault

namespace CommandLine

def empty : CommandLine := ⟨none, none, none, none, none, none, false, false, .compact⟩

/-! ## Values -/

def lossy (value : Bytes) : String := String.ofList (Utf8.decodeLossy value)

def number (flag : Flag) (value : Bytes) : Except ArgumentFault UInt64 :=
  match Utf8.decode? value with
  | none => .error .notText
  | some text =>
      match Numeral.readUInt64 text with
      | .error fault => .error (.badNumber flag (String.ofList text) fault)
      | .ok number => .ok number

def variant {α : Type} (name : α → String) (choices : List α) (ignoreCase : Bool)
    (text : String) : Except String α :=
  let folded := fun text : String => if ignoreCase then text.map Char.toLower else text
  match choices.find? fun choice => folded (name choice) = folded text with
  | some choice => .ok choice
  | none => .error ("invalid variant: " ++ text)

def choice {α : Type} (name : α → String) (choices : List α) (flag : Flag) (value : Bytes) :
    Except ArgumentFault α :=
  if value = [] then .error (.missingValue flag)
  else
    match (Utf8.decode? value).bind fun text =>
      (variant name choices false (String.ofList text)).toOption with
    | some choice => .ok choice
    | none => .error (.unknownChoice flag (lossy value))

def path (flag : Flag) (value : Bytes) : Except ArgumentFault Path :=
  if value = [] then .error (.missingValue flag) else .ok ⟨value⟩

def set (line : CommandLine) (flag : Flag) (value : Bytes) :
    Except ArgumentFault CommandLine :=
  match flag with
  | .iterations => do .ok { line with iterations := some (← number flag value) }
  | .inputSize => do .ok { line with inputSize := some (← number flag value) }
  | .algorithm => do
      .ok { line with algorithm := some (← choice Algorithm.name Algorithm.all flag value) }
  | .input => do .ok { line with input := some (← path flag value) }
  | .config => do .ok { line with config := some (← path flag value) }
  | .report => do
      .ok { line with report := some (← choice ReportFormat.name ReportFormat.all flag value) }
  | .monitor => .ok { line with monitor := true }
  | .verbose => .ok { line with verbose := true }
  | .logFormat => do
      .ok { line with logFormat := ← choice LogFormat.name LogFormat.all flag value }
  | .help => .ok line

/-! ## Settings -/

def apply (line : CommandLine) (settings : Settings) : Settings where
  iterations := line.iterations.getD settings.iterations
  inputSize := line.inputSize.getD settings.inputSize
  algorithm := line.algorithm.getD settings.algorithm
  inputPath := line.input.or settings.inputPath
  report := line.report.getD settings.report
  monitor := line.monitor || settings.monitor

end CommandLine

end SegmentBench
