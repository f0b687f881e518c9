import SegmentBench.Arguments.Flag

/-!
# The help text

The short help has a line for each flag, in two columns.  The detailed help has a
paragraph for each and describes the values that a flag admits.
-/

namespace SegmentBench.Help

def title : String :=
  "Repeats a maximum-subarray-sum computation over integers read from stdin"

def usage : String := "Usage: kadane-bench [OPTIONS]"

def spelling (flag : Flag) : String :=
  match flag.short? with
  | some c => "-" ++ String.ofList [c] ++ ", " ++ flag.written
  | none => "    " ++ flag.written

def isDescribed (flag : Flag) : Bool := flag.choices.any fun choice => choice.about ≠ ""

def defaultNote (flag : Flag) : List String :=
  match flag.default? with
  | some value => ["[default: " ++ value ++ "]"]
  | none => []

def choicesNote (flag : Flag) : List String :=
  if flag.choices.isEmpty then []
  else
    ["[possible values: " ++ String.intercalate ", " (flag.choices.map Choice.name) ++ "]"]

/-! ## In short -/

def width : Nat := (Flag.all.map fun flag => (spelling flag).length).foldl max 0

def line (flag : Flag) : String :=
  let parts :=
    (if flag.about false = "" then [] else [flag.about false])
      ++ defaultNote flag ++ choicesNote flag
  let gap := String.ofList (List.replicate (width - (spelling flag).length + 2) ' ')
  "  " ++ spelling flag ++ gap ++ String.intercalate " " parts

/-! ## In detail -/

def indent (text : String) : String := "          " ++ text

def body (flag : Flag) : List String :=
  let notes := defaultNote flag ++ (if isDescribed flag then [] else choicesNote flag)
  let about := flag.about true
  let parts :=
    if about = "" then notes else if notes.isEmpty then [about] else about :: "" :: notes
  parts.map indent

def described (flag : Flag) : List String :=
  if isDescribed flag then
    "" :: indent "Possible values:"
      :: flag.choices.map fun choice => indent ("- " ++ choice.name ++ ": " ++ choice.about)
  else []

def paragraph (flag : Flag) : String :=
  String.intercalate "\n" (("  " ++ spelling flag) :: body flag ++ described flag)

/-! ## The whole text -/

def text (detailed : Bool) : String :=
  let flags :=
    if detailed then String.intercalate "\n\n" (Flag.all.map paragraph)
    else String.intercalate "\n" (Flag.all.map line)
  title ++ "\n\n" ++ usage ++ "\n\nOptions:\n" ++ flags ++ "\n"

end SegmentBench.Help
