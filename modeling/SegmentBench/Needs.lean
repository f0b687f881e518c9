import SegmentBench.Program

/-!
# What a run needs

A run looks at little of its world, and what it looks at tells what it looks at next: the
arguments name the configuration, the text of that the variables, the settings the input, and
each line of the input whether another one is needed.
-/

namespace SegmentBench

/-! ## Lines -/

namespace Progress

def unfinished? (expected : Nat) (progress : Progress) : Option Progress :=
  if progress.count < expected then some progress else none

/-- The progress behind a line, unless no other line is needed. -/
def further? (expected : Nat) (progress : Progress) (line : Bytes) : Option Progress :=
  match progress.takeLine expected line with
  | .error _ => none
  | .ok next => next.unfinished? expected

end Progress

def Request.first? (request : Request) : Option Progress :=
  match reserve request.memory request.count with
  | .error _ => none
  | .ok () => Progress.start.unfinished? request.count.toNat

/-! ## Worlds -/

namespace World

def ofArguments (arguments : List Bytes) : World :=
  let unread : Usage := ⟨0, 0, 0, ⟨0, 0⟩⟩
  { arguments := arguments
    environment := fun _ => none
    files := fun _ => .error (.system SystemError.noEntry)
    input := Stream.ofBytes []
    memory := Memory.usual
    timing := ⟨⟨0, 0⟩, ⟨0, 0⟩⟩
    readings := ⟨unread, unread, unread⟩ }

def withFile (world : World) (path : Path) (entry : Except IoFault Entry) : World :=
  { world with files := fun other => if other = path then entry else world.files other }

def line? (world : World) : Option CommandLine := (Arguments.parse world.arguments).toOption

def configPath? (world : World) : Option Path := world.line?.bind fun line => line.config

def configText? (world : World) : Option (List Char) :=
  world.configPath?.bind fun path => (Files.readText (world.files path)).toOption

def variableNames (world : World) : List String :=
  Filter.variableName :: (world.configText?.map Placeholder.names).getD []

def settings? (world : World) : Option Settings :=
  world.line?.bind fun line =>
    (line.resolve world.environment fun path => Files.readText (world.files path)).toOption

def request (world : World) (settings : Settings) : Request :=
  ⟨world.memory, settings.inputSize⟩

def values? (world : World) (settings : Settings) : Option (List Int32) :=
  match Program.source world settings with
  | .error _ => none
  | .ok source => (source.stream.readIntegers world.memory settings.inputSize).1.toOption

end World

end SegmentBench
