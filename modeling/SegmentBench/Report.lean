import SegmentBench.Decimal.Fixed
import SegmentBench.Decimal.Layout
import SegmentBench.Segment
import SegmentBench.Time.Duration
import SegmentBench.Time.Timestamp

/-!
# Reports

What one benchmark found, and its two renderings: a line of text that starts with
the elapsed seconds, and an object with a line for each field.
-/

namespace SegmentBench

inductive ReportFormat where
  | none
  | text
  | json
  deriving DecidableEq, Repr

namespace ReportFormat

def all : List ReportFormat := [.none, .text, .json]

def name : ReportFormat → String
  | .none => "none"
  | .text => "text"
  | .json => "json"

def title : ReportFormat → String
  | .none => "None"
  | .text => "Text"
  | .json => "Json"

end ReportFormat

structure Report where
  algorithm : Algorithm
  inputSize : UInt64
  iterations : UInt64
  result : Option Int64
  elapsed : Duration
  seconds : Binary64
  perIteration : Binary64
  startedAt : Timestamp
  deriving DecidableEq, Repr

namespace Report

def resultText (missing : String) : Option Int64 → String
  | .none => missing
  | some value => Numeral.integer value.toInt

/-! ## The line of text -/

def text (report : Report) : String :=
  Fixed.text 6 report.seconds ++ " seconds: kadane/" ++ report.algorithm.name
    ++ " over " ++ Numeral.natural report.inputSize.toNat ++ " integers x "
    ++ Numeral.natural report.iterations.toNat ++ " iterations ("
    ++ Fixed.text 2 report.perIteration ++ " ns/iteration), result "
    ++ resultText "none" report.result

/-! ## The object -/

def inQuotes (text : String) : String := "\"" ++ text ++ "\""

def number (x : Binary64) : String := (Layout.compact? x).getD "null"

def fields (report : Report) : List (String × String) :=
  [("algorithm", inQuotes report.algorithm.name),
    ("input_size", Numeral.natural report.inputSize.toNat),
    ("iterations", Numeral.natural report.iterations.toNat),
    ("result", resultText "null" report.result),
    ("elapsed_secs", number report.seconds),
    ("ns_per_iteration", number report.perIteration),
    ("started_at", inQuotes report.startedAt.text)]

def member (field : String × String) : String :=
  "  " ++ inQuotes field.1 ++ ": " ++ field.2

def json (report : Report) : String :=
  "\x7b\n" ++ String.intercalate ",\n" (report.fields.map member) ++ "\n\x7d"

def render (report : Report) : ReportFormat → Option String
  | .none => .none
  | .text => some report.text
  | .json => some report.json

end Report

end SegmentBench
