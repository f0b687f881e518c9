import SegmentBench.Log.Event
import SegmentBench.Time.Duration

/-!
# Process monitoring

Readings of what the process uses, the statistics that are told of them, and the
greatest use of memory so far.
-/

namespace SegmentBench

/-- What one reading found: tenths of a percent of a processor, bytes, and the time
since the monitor was made. -/
structure Usage where
  processor : Nat
  memory : Nat
  installed : Nat
  elapsed : Duration
  deriving DecidableEq, Repr

structure Statistics where
  processor : Nat
  memory : Nat
  share : Nat
  peak : Nat
  elapsed : Duration
  deriving DecidableEq, Repr

structure Monitor where
  enabled : Bool
  peak : Nat
  deriving DecidableEq, Repr

namespace Monitor

def make (enabled : Bool) : Monitor := ⟨enabled, 0⟩

def megabytes (bytes : Nat) : Nat := bytes / 1024 / 1024

def share (part whole : Nat) : Nat := if whole = 0 then 0 else part * 1000 / whole

def sample (monitor : Monitor) (usage : Usage) : Option Statistics × Monitor :=
  if monitor.enabled then
    let memory := megabytes usage.memory
    let peak := max monitor.peak memory
    (some ⟨usage.processor, memory, share memory (megabytes usage.installed), peak,
      usage.elapsed⟩, { monitor with peak := peak })
  else (none, monitor)

/-! ## Messages -/

def tenths (value : Nat) : String :=
  Numeral.natural (value / 10) ++ "." ++ Numeral.natural (value % 10)

def phaseMessage (phase : String) (found : Statistics) : String :=
  "📊 " ++ phase ++ " - CPU: " ++ tenths found.processor ++ "%, Memory: "
    ++ Numeral.natural found.memory ++ "MB (" ++ tenths found.share ++ "%), Peak: "
    ++ Numeral.natural found.peak ++ "MB, Time: " ++ found.elapsed.text

def finalMessage (found : Statistics) : String :=
  "📊 Final Stats - Total Time: " ++ found.elapsed.text ++ ", Peak Memory: "
    ++ Numeral.natural found.peak ++ "MB"

def tell (message : Statistics → String) (monitor : Monitor) (usage : Usage) :
    List Event × Monitor :=
  match monitor.sample usage with
  | (none, monitor) => ([], monitor)
  | (some found, monitor) => ([⟨.info, Event.monitor, message found⟩], monitor)

def tellPhase (phase : String) : Monitor → Usage → List Event × Monitor :=
  tell (phaseMessage phase)

def tellFinal : Monitor → Usage → List Event × Monitor := tell finalMessage

end Monitor

end SegmentBench
