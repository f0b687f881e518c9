import SegmentBench.Log.Format
import SegmentBench.Report

/-!
# Flags

The flags of the command line: how they are written, whether they take a value, and
what the help says about them.
-/

namespace SegmentBench

inductive Flag where
  | iterations
  | inputSize
  | algorithm
  | input
  | config
  | report
  | monitor
  | verbose
  | logFormat
  | help
  deriving DecidableEq, Repr

structure Choice where
  name : String
  about : String
  deriving DecidableEq, Repr

namespace Flag

def all : List Flag :=
  [.iterations, .inputSize, .algorithm, .input, .config, .report, .monitor, .verbose,
    .logFormat, .help]

def long : Flag → String
  | .iterations => "iterations"
  | .inputSize => "input-size"
  | .algorithm => "algorithm"
  | .input => "input"
  | .config => "config"
  | .report => "report"
  | .monitor => "monitor"
  | .verbose => "verbose"
  | .logFormat => "log-format"
  | .help => "help"

def short? : Flag → Option Char
  | .iterations => some 'n'
  | .inputSize => some 's'
  | .algorithm => some 'a'
  | .input => some 'i'
  | .config => some 'c'
  | .report => some 'r'
  | .verbose => some 'v'
  | .help => some 'h'
  | .monitor | .logFormat => none

def value? : Flag → Option String
  | .iterations => some "ITERATIONS"
  | .inputSize => some "INPUT_SIZE"
  | .algorithm => some "ALGORITHM"
  | .input => some "INPUT"
  | .config => some "CONFIG"
  | .report => some "REPORT"
  | .logFormat => some "LOG_FORMAT"
  | .monitor | .verbose | .help => none

def takesValue (flag : Flag) : Bool := flag.value?.isSome

def written (flag : Flag) : String :=
  match flag.value? with
  | some value => "--" ++ flag.long ++ " <" ++ value ++ ">"
  | none => "--" ++ flag.long

def ofLong? (name : List Char) : Option Flag := all.find? fun flag => flag.long.toList = name

def ofShort? (c : Char) : Option Flag := all.find? fun flag => flag.short? = some c

/-! ## For the help -/

def about (detailed : Bool) : Flag → String
  | .iterations => "Number of times the algorithm is run [default: 30000000]"
  | .inputSize => "Number of integers to read [default: 97]"
  | .algorithm => "Maximum-subarray variant [default: clamped]"
  | .input => "Read integers from this file instead of stdin"
  | .config => "TOML configuration file"
  | .report => "Print a report to stdout after the run [default: none]"
  | .monitor => "Log process CPU and memory usage"
  | .verbose => "Enable verbose output"
  | .logFormat => ""
  | .help =>
      if detailed then "Print help (see a summary with '-h')"
      else "Print help (see more with '--help')"

def default? : Flag → Option String
  | .logFormat => some LogFormat.compact.name
  | _ => none

def algorithmAbout : Algorithm → String
  | .clamped => "Running sum resets at zero; all-negative input yields 0"
  | .classic => "Best non-empty contiguous sum, negative when every element is"

def choices : Flag → List Choice
  | .algorithm => Algorithm.all.map fun choice => ⟨choice.name, algorithmAbout choice⟩
  | .report => ReportFormat.all.map fun choice => ⟨choice.name, ""⟩
  | .logFormat => LogFormat.all.map fun choice => ⟨choice.name, ""⟩
  | _ => []

end Flag

end SegmentBench
