/-!
# Events

What a run tells about itself: a message, how much it matters, and the part of the
program that it comes from.
-/

namespace SegmentBench

inductive Level where
  | error
  | warn
  | info
  | debug
  | trace
  deriving DecidableEq, Repr

namespace Level

def all : List Level := [.error, .warn, .info, .debug, .trace]

def name : Level → String
  | .error => "ERROR"
  | .warn => "WARN"
  | .info => "INFO"
  | .debug => "DEBUG"
  | .trace => "TRACE"

def rank : Level → Nat
  | .error => 1
  | .warn => 2
  | .info => 3
  | .debug => 4
  | .trace => 5

end Level

structure Event where
  level : Level
  target : String
  message : String
  deriving DecidableEq, Repr

def Event.program : String := "kadane_bench"
def Event.loading : String := "kadane_bench::config::cli"
def Event.engine : String := "kadane_bench::core::engine"
def Event.monitor : String := "kadane_bench::utils::monitor"

end SegmentBench
