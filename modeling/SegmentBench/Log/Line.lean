import SegmentBench.Log.Event
import SegmentBench.Log.Format
import SegmentBench.Text.Numeral

/-!
# Log lines

An event as a line of text with its time, or as an object on one line.
-/

namespace SegmentBench.LogLine

/-! ## Compact -/

def visible (c : Char) : List Char :=
  let code := c.toNat
  if c = '\x1b' ∨ c = '\x07' ∨ c = '\x08' ∨ c = '\x0c' ∨ c = '\x7f' then
    ['\\', 'x', Numeral.digit (code / 16), Numeral.digit (code % 16)]
  else if 0x80 ≤ code ∧ code ≤ 0x9F then
    ['\\', 'u', '\x7b'] ++ Numeral.digits 16 code ++ ['\x7d']
  else [c]

def visibleText (text : String) : String := String.ofList (text.toList.flatMap visible)

def compactText (event : Event) : String :=
  event.level.name ++ " " ++ visibleText event.message

def compact (time : String) (event : Event) : String :=
  time ++ (if event.level.name.length < 5 then "  " else " ") ++ compactText event

/-! ## Objects -/

def escaped (c : Char) : List Char :=
  if c = '"' then ['\\', '"']
  else if c = '\\' then ['\\', '\\']
  else if c = '\n' then ['\\', 'n']
  else if c = '\r' then ['\\', 'r']
  else if c = '\t' then ['\\', 't']
  else if c = '\x08' then ['\\', 'b']
  else if c = '\x0c' then ['\\', 'f']
  else if c.toNat < 0x20 then
    ['\\', 'u', '0', '0', Numeral.digit (c.toNat / 16), Numeral.digit (c.toNat % 16)]
  else [c]

def inQuotes (text : String) : String :=
  "\"" ++ String.ofList (text.toList.flatMap escaped) ++ "\""

def member (name value : String) : String := inQuotes name ++ ":" ++ value

def object (members : List String) : String :=
  "\x7b" ++ String.intercalate "," members ++ "\x7d"

def json (time : String) (event : Event) : String :=
  object [member "timestamp" (inQuotes time), member "level" (inQuotes event.level.name),
    member "fields" (object [member "message" (inQuotes event.message)])]

def text (format : LogFormat) (time : String) (event : Event) : String :=
  match format with
  | .compact => compact time event
  | .json => json time event

end SegmentBench.LogLine
