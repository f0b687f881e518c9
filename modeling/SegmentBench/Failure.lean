import SegmentBench.Config.Mismatch
import SegmentBench.Files.SystemError
import SegmentBench.Located
import SegmentBench.Text.Utf8

/-!
# Failures

The ways in which a benchmark can fail, the text of each, what kind of failure it
is, and with which status the program ends because of it.
-/

namespace SegmentBench

inductive AllocationFault where
  | capacityOverflow
  | refused
  deriving DecidableEq, Repr

def AllocationFault.message : AllocationFault → String
  | .capacityOverflow =>
      "memory allocation failed because the computed capacity exceeded the collection's maximum"
  | .refused => "memory allocation failed because the memory allocator returned an error"

inductive DocumentFault where
  | syntactic (fault : Document.Fault)
  | mismatch (fault : Mismatch)
  deriving DecidableEq, Repr

def DocumentFault.message : DocumentFault → String
  | .syntactic fault => fault.message
  | .mismatch fault => fault.message

inductive Failure where
  | io (fault : IoFault)
  | allocation (requested : UInt64) (fault : AllocationFault)
  | badInteger (index : Nat) (token : String) (fault : Numeral.Fault)
  | badEncoding (index : Nat) (fault : Utf8.Fault)
  | shortInput (expected found : Nat)
  | badDocument (fault : DocumentFault)
  | serialization (fault : Located)
  | configuration (message : String)
  | invalidValue (field value reason : String)
  deriving DecidableEq, Repr

inductive Category where
  | input
  | resource
  | configuration
  | output
  deriving DecidableEq, Repr

def Category.title : Category → String
  | .input => "Input"
  | .resource => "Resource"
  | .configuration => "Configuration"
  | .output => "Output"

inductive Severity where
  | high
  | critical
  deriving DecidableEq, Repr

namespace Severity

def title : Severity → String
  | .high => "High"
  | .critical => "Critical"

def worse : Severity → Severity → Severity
  | .critical, _ => .critical
  | .high, other => other

end Severity

namespace Failure

/-! ## Texts -/

def cause? : Failure → Option String
  | .io fault => some fault.message
  | .allocation _ fault => some fault.message
  | .badInteger _ _ fault => some fault.message
  | .badEncoding _ fault => some fault.message
  | .badDocument fault => some fault.message
  | .serialization fault => some fault.message
  | .shortInput _ _ | .configuration _ | .invalidValue _ _ _ => none

def quotedText (text : String) : String := String.ofList (quoted text.toList)

def heading : Failure → String
  | .io _ => "IO error: "
  | .allocation requested _ =>
      "Failed to allocate input buffer for " ++ Numeral.natural requested.toNat
        ++ " integers: "
  | .badInteger index token _ =>
      "Invalid integer " ++ quotedText token ++ " at position " ++ Numeral.natural index
        ++ ": "
  | .badEncoding index _ =>
      "Input is not valid UTF-8 near integer " ++ Numeral.natural index ++ ": "
  | .badDocument _ => "TOML parsing error: "
  | .serialization _ => "Serialization error: "
  | .shortInput expected found =>
      "Unexpected end of input: expected " ++ Numeral.natural expected
        ++ " integers, found " ++ Numeral.natural found
  | .configuration message => "Configuration error: " ++ message
  | .invalidValue field value reason =>
      "Invalid value " ++ quotedText value ++ " for " ++ field ++ ": " ++ reason

def message (failure : Failure) : String := failure.heading ++ failure.cause?.getD ""

/-- The message, followed by the cause once more. -/
def chain (failure : Failure) : String :=
  match failure.cause? with
  | some cause => failure.message ++ ": " ++ cause
  | none => failure.message

/-! ## Consequences -/

def category : Failure → Category
  | .io _ | .badInteger _ _ _ | .badEncoding _ _ | .shortInput _ _ => .input
  | .allocation _ _ => .resource
  | .badDocument _ | .configuration _ | .invalidValue _ _ _ => .configuration
  | .serialization _ => .output

def severity (failure : Failure) : Severity :=
  match failure.category with
  | .resource => .critical
  | _ => .high

def exitCode (failure : Failure) : UInt8 :=
  match failure.category with
  | .input | .output => 1
  | .configuration => 2
  | .resource => 3

def suggestion : Failure → String
  | .io _ => "Check that the input file exists and is readable"
  | .allocation requested _ =>
      "Lower --input-size (currently " ++ Numeral.natural requested.toNat
        ++ ") or free up memory"
  | .badInteger _ _ _ | .badEncoding _ _ =>
      "Input must contain only whitespace-separated 32-bit integers"
  | .shortInput expected _ =>
      "Provide at least " ++ Numeral.natural expected ++ " integers or lower --input-size"
  | .badDocument _ => "Make sure the config file is valid TOML"
  | .configuration _ => "Make sure the config file exists and is readable"
  | .serialization _ => "Retry with --report text"
  | .invalidValue _ _ _ => "Run with --help to see accepted options"

def worst? (failures : List Failure) : Option Severity :=
  failures.foldl (fun worst failure =>
    match worst with
    | none => some failure.severity
    | some severity => some (severity.worse failure.severity)) none

end Failure

end SegmentBench
