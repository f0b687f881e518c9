import SegmentBench.Config.Mismatch
import SegmentBench.Path
import SegmentBench.Report

/-!
# Configurations

A configuration has four sections, and decoding takes it from the value of a
document.  The entries of a table are visited in the order of their keys, and the
first that does not fit decides.  A section may also be an array of its fields in
the order in which they are declared, all of which it then must have.
-/

namespace SegmentBench

open Document (Value)

/-! ## The sections -/

structure BenchmarkSection where
  iterations : Option UInt64
  inputSize : Option UInt64
  algorithm : Option Algorithm
  deriving DecidableEq, Repr

structure InputSection where
  path : Option Path
  deriving DecidableEq, Repr

structure ReportSection where
  format : ReportFormat
  deriving DecidableEq, Repr

structure MonitoringSection where
  enabled : Bool
  deriving DecidableEq, Repr

structure Config where
  benchmark : BenchmarkSection
  input : Option InputSection
  report : Option ReportSection
  monitoring : Option MonitoringSection
  deriving DecidableEq, Repr

namespace Config

def empty : Config := ⟨⟨none, none, none⟩, none, none, none⟩

def inputPath (config : Config) : Option Path := config.input.bind InputSection.path

def reportFormat (config : Config) : Option ReportFormat :=
  config.report.map ReportSection.format

def monitoringEnabled (config : Config) : Option Bool :=
  config.monitoring.map MonitoringSection.enabled

end Config

/-! ## Single values -/

namespace Decode

abbrev Decoder (α : Type) := Value → Except Mismatch α

def mismatch (expected : String) : Value → Mismatch
  | .string text => .invalidType (.string text) expected
  | .integer value => .invalidType (.integer value) expected
  | .float value => .invalidType (.float value) expected
  | .boolean value => .invalidType (.boolean value) expected
  | .array _ => .invalidType .sequence expected
  | .table _ | .moment => .invalidType .map expected
  | .oversized => .oversizedNumber

/-- A negative word of 64 bits has the right type but no right value. -/
def unsigned (expected : String) : Decoder UInt64
  | .integer value =>
      if 0 ≤ value ∧ value < Nat.pow 2 64 then .ok (UInt64.ofNat value.toNat)
      else if -Nat.pow 2 63 ≤ value ∧ value < 0 then
        .error (.invalidValue (.integer value) expected)
      else .error (.invalidType (.integer value) expected)
  | value => .error (mismatch expected value)

def boolean : Decoder Bool
  | .boolean value => .ok value
  | value => .error (mismatch "a boolean" value)

def path : Decoder Path
  | .string text => .ok (Path.ofString text)
  | value => .error (mismatch "path string" value)

/-! ## Choices -/

def byName? {α : Type} (name : α → String) (choices : List α) (text : String) : Option α :=
  choices.find? fun choice => name choice = text

def named {α : Type} (name : α → String) (choices : List α) (text : String) :
    Except Mismatch α :=
  match byName? name choices text with
  | some choice => .ok choice
  | none => .error (.unknownVariant text (choices.map name))

def choice {α : Type} (name : α → String) (choices : List α) : Decoder α
  | .string text => named name choices text
  | .table [(key, content)] => do
      let choice ← named name choices key
      match content with
      | .table [] | .array [] => .ok choice
      | _ => .error .variantContent
  | _ => .error .noVariant

def algorithm : Decoder Algorithm := choice Algorithm.name Algorithm.all

def format : Decoder ReportFormat := choice ReportFormat.name ReportFormat.all

/-! ## Sections -/

structure Field (α : Type) where
  name : String
  read : Value → α → Except Mismatch α

structure Shape (α : Type) where
  fields : List (Field α)
  expected : String

def Shape.names {α : Type} (shape : Shape α) : List String := shape.fields.map Field.name

def entries {α : Type} (shape : Shape α) (known : α) :
    List (String × Value) → Except Mismatch α
  | [] => .ok known
  | (key, value) :: rest =>
      match shape.fields.find? fun field => field.name = key with
      | none => .error (.unknownField key shape.names)
      | some field => do entries shape (← field.read value known) rest

def plural (count : Nat) : String := if count = 1 then " element" else " elements"

def items {α : Type} (shape : Shape α) (known : α) (index : Nat) :
    List (Field α) → List Value → Except Mismatch α
  | [], _ => .ok known
  | field :: fields, value :: rest => do
      items shape (← field.read value known) (index + 1) fields rest
  | _ :: _, [] =>
      .error (.invalidLength index
        (shape.expected ++ " with " ++ Numeral.natural shape.fields.length
          ++ plural shape.fields.length))

/-- The single key that a date or time shows when it is taken for a table. -/
def momentKey : String := "$__toml_private_datetime"

def fields {α : Type} (shape : Shape α) (none : α) : Decoder α
  | .table content => entries shape none content
  | .moment => .error (.unknownField momentKey shape.names)
  | .array content => items shape none 0 shape.fields content
  | value => .error (mismatch shape.expected value)

def benchmarkShape : Shape BenchmarkSection where
  fields :=
    [⟨"iterations", fun value known => do
        .ok { known with iterations := some (← unsigned "u64" value) }⟩,
      ⟨"input_size", fun value known => do
        .ok { known with inputSize := some (← unsigned "usize" value) }⟩,
      ⟨"algorithm", fun value known => do
        .ok { known with algorithm := some (← algorithm value) }⟩]
  expected := "struct BenchmarkSection"

def benchmark : Decoder BenchmarkSection := fields benchmarkShape ⟨none, none, none⟩

def inputShape : Shape InputSection where
  fields := [⟨"path", fun value _ => do .ok ⟨some (← path value)⟩⟩]
  expected := "struct InputSection"

def input : Decoder InputSection := fields inputShape ⟨none⟩

def reportShape : Shape (Option ReportSection) where
  fields := [⟨"format", fun value _ => do .ok (some ⟨← format value⟩)⟩]
  expected := "struct ReportSection"

def monitoringShape : Shape (Option MonitoringSection) where
  fields := [⟨"enabled", fun value _ => do .ok (some ⟨← boolean value⟩)⟩]
  expected := "struct MonitoringSection"

def required {α : Type} (shape : Shape (Option α)) (name : String) : Decoder α :=
  fun value => do
    match ← fields shape none value with
    | some known => .ok known
    | none => .error (.missingField name)

def report : Decoder ReportSection := required reportShape "format"

def monitoring : Decoder MonitoringSection := required monitoringShape "enabled"

def configShape : Shape Config where
  fields :=
    [⟨"benchmark", fun value known => do
        .ok { known with benchmark := ← benchmark value }⟩,
      ⟨"input", fun value known => do .ok { known with input := some (← input value) }⟩,
      ⟨"report", fun value known => do .ok { known with report := some (← report value) }⟩,
      ⟨"monitoring", fun value known => do
        .ok { known with monitoring := some (← monitoring value) }⟩]
  expected := "struct TomlConfig"

def config : Decoder Config := fields configShape Config.empty

end Decode

end SegmentBench
