import SegmentBench.Arguments.CommandLine
import SegmentBench.Arguments.Help

/-!
# Parsing command lines

Arguments are read from the left.  A flag whose value is the next argument stays
pending until another flag or the end of the arguments settles it, and an argument
that nothing expects is refused before that.
-/

namespace SegmentBench

inductive Stop where
  | help (detailed : Bool)
  | fault (fault : ArgumentFault)
  deriving DecidableEq, Repr

namespace Arguments

structure Pending where
  flag : Flag
  value : Option Bytes
  deriving DecidableEq, Repr

structure State where
  given : List Flag
  line : CommandLine
  pending : Option Pending
  deriving DecidableEq, Repr

namespace State

def start : State := ⟨[], CommandLine.empty, none⟩

def enter (state : State) (flag : Flag) (value : Bytes) : Except Stop State :=
  if state.given.contains flag then .error (.fault (.repeated flag))
  else
    match state.line.set flag value with
    | .error fault => .error (.fault fault)
    | .ok line => .ok { state with given := flag :: state.given, line := line }

def settle (state : State) : Except Stop State :=
  match state.pending with
  | none => .ok state
  | some ⟨flag, none⟩ => .error (.fault (.missingValue flag))
  | some ⟨flag, some value⟩ => { state with pending := none }.enter flag value

def attach (state : State) (flag : Flag) (value : Bytes) : Except Stop State := do
  (← state.settle).enter flag value

def await (state : State) (flag : Flag) : Except Stop State := do
  .ok { ← state.settle with pending := some ⟨flag, none⟩ }

def switch (state : State) (flag : Flag) (detailed : Bool) : Except Stop State := do
  let state ← state.settle
  if flag = .help then .error (.help detailed) else state.enter flag []

end State

def unexpected (argument : String) : Except Stop State := .error (.fault (.unexpected argument))

/-! ## One argument -/

def dash : UInt8 := 0x2D

def equalsSign : UInt8 := 0x3D

def long (state : State) (body : Bytes) : Except Stop State :=
  let name := body.takeWhile (· ≠ equalsSign)
  match (Utf8.decode? name).bind Flag.ofLong? with
  | none => unexpected ("--" ++ CommandLine.lossy name)
  | some flag =>
      match body.dropWhile (· ≠ equalsSign) with
      | [] => if flag.takesValue then state.await flag else state.switch flag true
      | _ :: value =>
          if flag.takesValue then state.attach flag value
          else .error (.fault (.needlessValue flag (CommandLine.lossy value)))

def firstShown (bytes : Bytes) : String :=
  match Utf8.pieces bytes with
  | .character c :: _ => String.ofList [c]
  | _ => CommandLine.lossy bytes

/-- The letters behind one dash.  What follows a flag with a value is the value, in
front of which an equals sign may stand. -/
def cluster (state : State) : Bytes → Except Stop State
  | [] => .ok state
  | b :: rest =>
      match if b < 0x80 then Flag.ofShort? (Char.ofNat b.toNat) else none with
      | none => unexpected ("-" ++ firstShown (b :: rest))
      | some flag =>
          if flag.takesValue then
            match rest with
            | [] => state.await flag
            | next :: value =>
                state.attach flag (if next = equalsSign then value else next :: value)
          else do cluster (← state.switch flag false) rest

def plain (state : State) (argument : Bytes) : Except Stop State :=
  match state.pending with
  | some ⟨flag, none⟩ => .ok { state with pending := some ⟨flag, some argument⟩ }
  | _ => unexpected (CommandLine.lossy argument)

def isLong : Bytes → Bool
  | a :: b :: _ => a = dash && b = dash
  | _ => false

def isCluster : Bytes → Bool
  | a :: b :: _ => a = dash && b ≠ dash
  | _ => false

def argument (state : State) (argument : Bytes) : Except Stop State :=
  if isLong argument then long state (argument.drop 2)
  else if isCluster argument then cluster state (argument.drop 1)
  else plain state argument

/-! ## All arguments -/

/-- Behind two dashes alone there must be nothing. -/
def arguments (state : State) : List Bytes → Except Stop State
  | [] => state.settle
  | first :: rest =>
      if first = [dash, dash] then
        match rest with
        | [] => state.settle
        | next :: _ => unexpected (CommandLine.lossy next)
      else do arguments (← argument state first) rest

def parse (given : List Bytes) : Except Stop CommandLine := do
  .ok (← arguments State.start given).line

end Arguments

end SegmentBench
