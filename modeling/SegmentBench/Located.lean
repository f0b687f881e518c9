import SegmentBench.Text.Numeral

/-!
# Located messages

A message with the line and the column that it is about.  The place is written behind
the message and read from there again; a message about line zero is about no place.
-/

namespace SegmentBench

structure Located where
  text : List Char
  line : UInt64
  column : UInt64
  deriving DecidableEq, Repr

namespace Located

def lineMark : List Char := " at line ".toList

def columnMark : List Char := " column ".toList

def splitLast? (part : List Char) : List Char → Option (List Char × List Char)
  | [] => none
  | c :: rest =>
      match splitLast? part rest with
      | some (before, behind) => some (c :: before, behind)
      | none =>
          if part.isPrefixOf (c :: rest) then some ([], (c :: rest).drop part.length) else none

def word? (digits : List Char) : Option UInt64 := (Numeral.readUInt64 digits).toOption

def place? (text : List Char) : Option (UInt64 × UInt64) := do
  let digits := text.takeWhile Numeral.isDecimal
  let rest := text.dropWhile Numeral.isDecimal
  if columnMark.isPrefixOf rest ∧ (rest.drop columnMark.length).all Numeral.isDecimal then
    some (← word? digits, ← word? (rest.drop columnMark.length))
  else none

def ofText (text : List Char) : Located :=
  match splitLast? lineMark text with
  | none => ⟨text, 0, 0⟩
  | some (before, behind) =>
      match place? behind with
      | none => ⟨text, 0, 0⟩
      | some (line, column) => ⟨before, line, column⟩

def message (fault : Located) : String :=
  String.ofList <|
    if fault.line = 0 then fault.text
    else
      fault.text ++ lineMark ++ Numeral.digits 10 fault.line.toNat ++ columnMark
        ++ Numeral.digits 10 fault.column.toNat

end Located

end SegmentBench
