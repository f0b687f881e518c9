import SegmentBench.Files.SystemError
import SegmentBench.Path

/-!
# Files

What opening a path gives, and a current directory of files and empty directories
in which a path is looked up component by component.  Around the current directory
lie directories of which no other entry is known.
-/

namespace SegmentBench

inductive Entry where
  | file (content : Bytes)
  | directory
  deriving DecidableEq, Repr

namespace Files

/-! ## Paths as components -/

def slash : UInt8 := 0x2F

/-- `component` holds the bytes since the last slash, last first. -/
def splitFrom (component : Bytes) : Bytes → List Bytes
  | [] => [component.reverse]
  | b :: rest =>
      if b = slash then component.reverse :: splitFrom [] rest
      else splitFrom (b :: component) rest

def components (path : Path) : List Bytes := splitFrom [] path.bytes

def here : Bytes := [0x2E]

def parent : Bytes := [0x2E, 0x2E]

def longestName : Nat := 255

def longestPath : Nat := 4095

/-! ## Walking -/

inductive Place where
  | outside
  | current
  | inner
  deriving DecidableEq, Repr

def Place.up : Place → Place
  | .inner => .current
  | _ => .outside

abbrev Tree := List (Bytes × Entry)

/-- A slash behind a file, even the last, asks for a directory there. -/
def walk (tree : Tree) (place : Place) : List Bytes → Except IoFault Entry
  | [] => .ok .directory
  | name :: rest =>
      if name = [] ∨ name = here then walk tree place rest
      else if name = parent then walk tree place.up rest
      else if longestName < name.length then .error (.system SystemError.nameTooLong)
      else if place ≠ .current then .error (.system SystemError.noEntry)
      else
        match tree.lookup name with
        | none => .error (.system SystemError.noEntry)
        | some .directory => walk tree .inner rest
        | some (.file content) =>
            if rest = [] then .ok (.file content)
            else .error (.system SystemError.notDirectory)

def Tree.find (tree : Tree) (path : Path) : Except IoFault Entry :=
  if path.bytes.contains 0 then .error .nulInName
  else if path.bytes = [] then .error (.system SystemError.noEntry)
  else if longestPath < path.bytes.length then .error (.system SystemError.nameTooLong)
  else
    let start := if path.bytes.head? = some slash then Place.outside else .current
    walk tree start (components path)

/-! ## Whole texts -/

def readText : Except IoFault Entry → Except IoFault (List Char)
  | .error fault => .error fault
  | .ok .directory => .error (.system SystemError.isDirectory)
  | .ok (.file content) =>
      match Utf8.decode? content with
      | none => .error .notText
      | some text => .ok text

end Files

end SegmentBench
