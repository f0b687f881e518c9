import SegmentBench.Decimal.Binary64

/-!
# Configuration documents

The values of a configuration document, which is a table itself, and the faults
that keep a text from being one.
-/

namespace SegmentBench.Document

/-- The entries of a table stand in the order of their keys.  A number that no
machine word or floating-point value can hold is only known to be `oversized`, and
of a date or time it is only known that it is well formed. -/
inductive Value where
  | string (text : String)
  | integer (value : Int)
  | float (value : Binary64)
  | boolean (value : Bool)
  | moment
  | oversized
  | array (items : List Value)
  | table (entries : List (String × Value))
  deriving Repr

inductive Fault where
  | forbiddenCharacter (c : Char)
  | unfinishedString
  | unknownEscape
  | malformedValue
  | missingKey
  | missingEquals
  | missingValue
  | missingComma
  | missingBracket
  | missingLineEnd
  | nestedTooDeep
  | duplicateKey (key : String)
  | unfinished
  deriving DecidableEq, Repr

def Fault.message : Fault → String
  | .forbiddenCharacter _ => "control characters are not allowed"
  | .unfinishedString => "a string is not closed"
  | .unknownEscape => "a backslash introduces no character"
  | .malformedValue => "a value is neither a number, a date nor a boolean"
  | .missingKey => "a key is missing"
  | .missingEquals => "a key has no equals sign"
  | .missingValue => "a key has no value"
  | .missingComma => "two items have no comma between them"
  | .missingBracket => "a bracket is not closed"
  | .missingLineEnd => "an entry does not end with its line"
  | .nestedTooDeep => "values are nested too deep"
  | .duplicateKey key => "the key " ++ key ++ " stands twice"
  | .unfinished => "the document does not end"

/-! ## Blanks, line ends and comments -/

def isSpace (c : Char) : Bool := c = ' ' || c = '\t'

def skipSpaces (text : List Char) : List Char := text.dropWhile isSpace

def isForbidden (c : Char) : Bool := (c.toNat < 0x20 && c ≠ '\t') || c.toNat = 0x7F

def lineBreak? : List Char → Option (List Char)
  | '\n' :: rest => some rest
  | '\r' :: '\n' :: rest => some rest
  | _ => none

def skipComment : List Char → Except Fault (List Char)
  | [] => .ok []
  | c :: rest =>
      if (lineBreak? (c :: rest)).isSome then .ok (c :: rest)
      else if isForbidden c then .error (.forbiddenCharacter c)
      else skipComment rest

def lineEnd (text : List Char) : Except Fault (List Char) := do
  let rest ←
    match skipSpaces text with
    | '#' :: rest => skipComment rest
    | rest => .ok rest
  match rest with
  | [] => .ok []
  | _ =>
      match lineBreak? rest with
      | some next => .ok next
      | none => .error .missingLineEnd

def skipLines : Nat → List Char → Except Fault (List Char)
  | 0, _ => .error .unfinished
  | fuel + 1, text =>
      match skipSpaces text with
      | '#' :: rest => do skipLines fuel (← skipComment rest)
      | rest =>
          match lineBreak? rest with
          | some next => skipLines fuel next
          | none => .ok rest

end SegmentBench.Document
