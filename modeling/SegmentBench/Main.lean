import SegmentBench.Log.Line
import SegmentBench.Needs
import Std.Time.DateTime.Timestamp

/-!
# The command

Fetches from the process what the run needs, and writes what the run gives.  Every decision is
made by the functions that it calls.
-/

namespace SegmentBench.Command

/-! ## Outside faults -/

def faultOf : IO.Error → IoFault
  | .noFileOrDirectory _ code _ | .interrupted _ code _ => .system code.toNat
  | .alreadyExists _ code _ | .invalidArgument _ code _ | .permissionDenied _ code _
  | .resourceExhausted _ code _ | .inappropriateType _ code _ | .noSuchThing _ code _ =>
      .system code.toNat
  | .otherError code _ | .resourceBusy code _ | .resourceVanished code _
  | .unsupportedOperation code _ | .hardwareFault code _ | .unsatisfiedConstraints code _
  | .illegalOperation code _ | .protocolError code _ | .timeExpired code _ =>
      .system code.toNat
  | .unexpectedEof => .other "unexpected end of file"
  | .userError text => .other text

def attempt {α : Type} (action : IO α) : IO (Except IoFault α) :=
  try
    return .ok (← action)
  catch error => return .error (faultOf error)

def bytesOf (text : String) : Bytes := text.toUTF8.toList

/-! ## Files and streams -/

/-- The system is only ever asked for names that are text. -/
def openFile (path : Path) : IO (Except IoFault IO.FS.Handle) := do
  if path.bytes.contains 0 then return .error .nulInName
  match Utf8.decode? path.bytes with
  | none => return .error (.other "file name is not valid UTF-8")
  | some name => attempt (IO.FS.Handle.mk (String.ofList name) .read)

/-- A directory is opened like a file, and told from one when it is read. -/
def entryOf (content : Bytes) : Option IoFault → Except IoFault Entry
  | none => .ok (.file content)
  | some fault =>
      if fault = .system SystemError.isDirectory then .ok .directory else .error fault

def fetchText (path : Path) : IO (Except IoFault Entry) := do
  match ← openFile path with
  | .error fault => return .error fault
  | .ok handle =>
      match ← attempt handle.readBinToEnd with
      | .error fault => return entryOf [] (some fault)
      | .ok content => return entryOf content.toList none

/-- One byte at a time, so that nothing behind the line is waited for. -/
def fetchLine (read : USize → IO ByteArray) : IO Bytes := do
  let mut line : Bytes := []
  repeat
    let byte := (← read 1).toList
    line := byte ++ line
    if byte.isEmpty || byte.contains Stream.newline then break
  return line.reverse

def fetchLines (read : USize → IO ByteArray) (request : Request) :
    IO (Bytes × Option IoFault) := do
  let mut lines : List Bytes := []
  let mut needed := request.first?
  repeat
    match needed with
    | none => break
    | some progress =>
        match ← attempt (fetchLine read) with
        | .error fault => return (lines.reverse.flatten, some fault)
        | .ok line =>
            lines := line :: lines
            needed := progress.further? request.count.toNat line
  return (lines.reverse.flatten, none)

/-! ## Clocks and readings -/

def now : IO Timestamp := do
  let total := (← Std.Time.Timestamp.now).toNanosecondsSinceUnixEpoch.val
  return ⟨total / Timestamp.perSecond, (total % Timestamp.perSecond).toNat⟩

def since (start : Nat) : IO Duration :=
  return Duration.ofNanoseconds ((← IO.monoNanosNow) - start)

def kilobytes (table name : String) : Nat :=
  match (table.splitOn "\n").find? fun line => name.isPrefixOf line with
  | none => 0
  | some line =>
      let digits := line.toList.filter Numeral.isDecimal
      Numeral.append 10 0 digits * 1024

def table (name : String) : IO String := do
  match ← attempt (IO.FS.readFile name) with
  | .ok text => return text
  | .error _ => return ""

def usage (start : Nat) : IO Usage := do
  return ⟨0, kilobytes (← table "/proc/self/status") "VmRSS:",
    kilobytes (← table "/proc/meminfo") "MemTotal:", ← since start⟩

def measure (settings : Settings) (values : List Int32) : IO Timing := do
  let startedAt ← now
  let begun ← IO.monoNanosNow
  -- the result is stored, so that the clock is not read before the loop is over
  let _ ← IO.mkRef (settings.algorithm.lastSum values none settings.iterations.toNat)
  return ⟨← since begun, startedAt⟩

/-! ## The world -/

def withConfiguration (world : World) : IO World := do
  match world.configPath? with
  | none => return world
  | some path => return world.withFile path (← fetchText path)

def withEnvironment (world : World) : IO World := do
  let known ← world.variableNames.mapM fun name => return (name, ← IO.getEnv name)
  return { world with environment := fun name => (known.lookup name).join }

def withInput (world : World) (settings : Settings) : IO World := do
  let request := world.request settings
  match settings.inputPath with
  | none =>
      let (bytes, fault) ← fetchLines (← IO.getStdin).read request
      let failures := fault.toList.map fun fault => (bytes.length, Disturbance.failure fault)
      return { world with input := { Stream.ofBytes bytes with disturbances := failures } }
  | some path =>
      -- the configuration may be the input too, and is known already
      if world.configPath? = some path then return world
      match ← openFile path with
      | .error fault => return world.withFile path (.error fault)
      | .ok handle =>
          let (bytes, fault) ← fetchLines handle.read request
          return world.withFile path (entryOf bytes fault)

def withMeasurements (world : World) (settings : Settings) (start : Nat) : IO World := do
  match world.values? settings with
  | none => return world
  | some values =>
      let loaded ← usage start
      let timing ← measure settings values
      let readings : Readings := ⟨loaded, ← usage start, ← usage start⟩
      return { world with timing, readings }

def fetchWorld (arguments : List Bytes) : IO World := do
  let world ← withConfiguration (World.ofArguments arguments)
  let world ← withEnvironment world
  match world.settings? with
  | none => return world
  | some settings =>
      let start ← IO.monoNanosNow
      withMeasurements (← withInput world settings) settings start

/-! ## Running -/

def finish (outcome : Outcome) : IO UInt32 := do
  let told ← IO.getStderr
  for diagnostic in outcome.diagnostics do
    match diagnostic with
    | .line text => told.putStrLn text
    | .event format event => told.putStrLn (LogLine.text format (← now).text event)
  (← IO.getStdout).putStr outcome.output
  return outcome.exitCode.toUInt32

def run (arguments : List String) : IO UInt32 := do
  finish (Program.run (← fetchWorld (arguments.map bytesOf)))

end SegmentBench.Command

def main (arguments : List String) : IO UInt32 := SegmentBench.Command.run arguments
