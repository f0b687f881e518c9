import SegmentBench.Config.Load

/-!
# Settings

What a benchmark is to do.  Settings start from defaults, and a configuration
replaces those that it has.
-/

namespace SegmentBench

structure Settings where
  iterations : UInt64
  inputSize : UInt64
  algorithm : Algorithm
  inputPath : Option Path
  report : ReportFormat
  monitor : Bool
  deriving DecidableEq, Repr

namespace Settings

def default : Settings := ⟨30000000, 97, .clamped, none, .none, false⟩

def merge (settings : Settings) (config : Config) : Settings where
  iterations := config.benchmark.iterations.getD settings.iterations
  inputSize := config.benchmark.inputSize.getD settings.inputSize
  algorithm := config.benchmark.algorithm.getD settings.algorithm
  inputPath := config.inputPath.or settings.inputPath
  report := config.reportFormat.getD settings.report
  monitor := config.monitoringEnabled.getD settings.monitor

/-! ## Validation -/

/-- The bytes of one integer, and the most bytes that one buffer may have. -/
def integerBytes : Nat := 4

def greatestBuffer : Nat := Nat.pow 2 63 - 1

def greatestInputSize : UInt64 := UInt64.ofNat (greatestBuffer / integerBytes)

def wordText (value : UInt64) : String := Numeral.natural value.toNat

def checkInputSize (value : UInt64) : Except Failure Unit :=
  Validation.checkRange (fun a b => a < b) wordText "input_size" value 0 greatestInputSize

def validate (settings : Settings) : Except Failure Unit := do
  checkInputSize settings.inputSize
  match settings.inputPath with
  | none => .ok ()
  | some path => Validation.checkPath "input" path

theorem checkInputSize_eq_ok_iff (size : UInt64) :
    checkInputSize size = .ok () ↔ size ≤ greatestInputSize := by
  unfold checkInputSize
  rw [Validation.checkRange_eq_ok_iff, decide_eq_false_iff_not, decide_eq_false_iff_not,
    UInt64.not_lt, UInt64.not_lt]
  exact and_iff_right UInt64.zero_le

theorem validate_eq_ok_iff {settings : Settings} (hpath : settings.inputPath = none) :
    settings.validate = .ok () ↔ settings.inputSize ≤ greatestInputSize := by
  rw [← checkInputSize_eq_ok_iff]
  unfold validate
  rw [hpath]
  cases checkInputSize settings.inputSize <;> simp [bind, Except.bind]

end Settings

end SegmentBench
