import SegmentBench.Decimal.Layout
import SegmentBench.Document.Value
import SegmentBench.Text.Quoted

/-!
# Mismatches

How a value of a document can fail to be what the configuration has in its place.
-/

namespace SegmentBench

inductive Found where
  | boolean (value : Bool)
  | integer (value : Int)
  | float (value : Binary64)
  | string (text : String)
  | sequence
  | map
  deriving DecidableEq, Repr

namespace Found

def inTicks (text : String) : String := "`" ++ text ++ "`"

def integerText (value : Int) : String :=
  let text := "integer " ++ inTicks (Numeral.integer value)
  if -Nat.pow 2 63 ≤ value ∧ value < Nat.pow 2 64 then text
  else if value < Nat.pow 2 127 then text ++ " as i128"
  else text ++ " as u128"

def text : Found → String
  | .boolean value => "boolean " ++ inTicks (if value then "true" else "false")
  | .integer value => integerText value
  | .float value => "floating point " ++ inTicks (Layout.plainPointed value)
  | .string text => "string " ++ String.ofList (quoted text.toList)
  | .sequence => "sequence"
  | .map => "map"

end Found

inductive Mismatch where
  | unknownField (name : String) (known : List String)
  | unknownVariant (name : String) (known : List String)
  | missingField (name : String)
  | invalidType (found : Found) (expected : String)
  | invalidValue (found : Found) (expected : String)
  | invalidLength (length : Nat) (expected : String)
  | oversizedNumber
  | noVariant
  | variantContent
  deriving DecidableEq, Repr

namespace Mismatch

def alternatives : List String → String
  | [a] => Found.inTicks a
  | [a, b] => Found.inTicks a ++ " or " ++ Found.inTicks b
  | names => "one of " ++ String.intercalate ", " (names.map Found.inTicks)

def message : Mismatch → String
  | .unknownField name known =>
      "unknown field " ++ Found.inTicks name ++ ", expected " ++ alternatives known
  | .unknownVariant name known =>
      "unknown variant " ++ Found.inTicks name ++ ", expected " ++ alternatives known
  | .missingField name => "missing field " ++ Found.inTicks name
  | .invalidType found expected =>
      "invalid type: " ++ found.text ++ ", expected " ++ expected
  | .invalidValue found expected =>
      "invalid value: " ++ found.text ++ ", expected " ++ expected
  | .invalidLength length expected =>
      "invalid length " ++ Numeral.natural length ++ ", expected " ++ expected
  | .oversizedNumber => "the number is too large"
  | .noVariant => "a name, or a table with one name as its key, was expected"
  | .variantContent => "the name of a choice takes no content"

end Mismatch

end SegmentBench
