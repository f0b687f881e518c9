import SegmentBench.Document.Value

/-!
# Tables of a document

Assignments and sections are entered into a tree of tables one after the other.
A table remembers what made it: its own header, the path of another header, or the
dots of a key.  These decide which later header or key may still add to it, so that
nothing is defined twice.  A value, which an inline table is too, is closed.
-/

namespace SegmentBench.Document

/-! ## Keys and sections -/

structure Key where
  parents : List String
  name : String
  deriving DecidableEq, Repr

structure Assignment where
  key : Key
  value : Value
  deriving Repr

/-- The header of a section; a repeated one adds a table to an array. -/
structure Header where
  key : Key
  repeated : Bool
  deriving DecidableEq, Repr

structure Section where
  header : Header
  body : List Assignment
  deriving Repr

structure Outline where
  top : List Assignment
  sections : List Section
  deriving Repr

/-! ## The tree -/

inductive Origin where
  | header
  | path
  | dots
  deriving DecidableEq, Repr

/-- The tables of an array stand last first. -/
inductive Node where
  | leaf (value : Value)
  | table (origin : Origin) (entries : List (String × Node))
  | tables (items : List (List (String × Node)))

abbrev Entries := List (String × Node)

def put (key : String) (node : Node) : Entries → Entries
  | [] => [(key, node)]
  | (other, old) :: rest =>
      if key < other then (key, node) :: (other, old) :: rest
      else if key = other then (key, node) :: rest
      else (other, old) :: put key node rest

/-- Changes the table at the end of a path and makes the missing tables on the way,
by the origin `made`.  The dots of a key do not enter a table that has a header. -/
def descend (made : Origin) (change : Origin → Entries → Except Fault Entries)
    (origin : Origin) (entries : Entries) : List String → Except Fault Entries
  | [] => change origin entries
  | key :: rest =>
      match entries.lookup key with
      | none => do
          let inner ← descend made change made [] rest
          .ok (put key (.table made inner) entries)
      | some (.table found inner) =>
          if made = .dots ∧ found = .header then .error (.duplicateKey key)
          else do
            let inner ← descend made change found inner rest
            .ok (put key (.table found inner) entries)
      | some (.tables (last :: earlier)) => do
          let last ← descend made change .header last rest
          .ok (put key (.tables (last :: earlier)) entries)
      | some _ => .error (.duplicateKey key)

def assign (entries : Entries) (assignment : Assignment) : Except Fault Entries :=
  let key := assignment.key
  let change := fun (origin : Origin) (inner : Entries) =>
    if (origin = .dots ↔ key.parents = []) ∨ (inner.lookup key.name).isSome then
      .error (.duplicateKey key.name)
    else .ok (put key.name (.leaf assignment.value) inner)
  descend .dots change .header entries key.parents

def fill (entries : Entries) (body : List Assignment) : Except Fault Entries :=
  body.foldlM assign entries

def openTable (name : String) (body : List Assignment) (entries : Entries) :
    Except Fault Entries :=
  match entries.lookup name with
  | none => do .ok (put name (.table .header (← fill [] body)) entries)
  | some (.table .path inner) => do
      .ok (put name (.table .header (← fill inner body)) entries)
  | some _ => .error (.duplicateKey name)

def addTable (name : String) (body : List Assignment) (entries : Entries) :
    Except Fault Entries :=
  match entries.lookup name with
  | none => do .ok (put name (.tables [← fill [] body]) entries)
  | some (.tables items) => do
      .ok (put name (.tables ((← fill [] body) :: items)) entries)
  | some _ => .error (.duplicateKey name)

def enter (entries : Entries) (part : Section) : Except Fault Entries :=
  let key := part.header.key
  let change := fun (_ : Origin) (inner : Entries) =>
    if part.header.repeated then addTable key.name part.body inner
    else openTable key.name part.body inner
  descend .path change .header entries key.parents

/-! ## The finished value -/

mutual

def Node.value : Node → Value
  | .leaf value => value
  | .table _ entries => .table (entryValues entries)
  | .tables items => .array (tableValues items [])

def entryValues : List (String × Node) → List (String × Value)
  | [] => []
  | (key, node) :: rest => (key, node.value) :: entryValues rest

def tableValues : List (List (String × Node)) → List Value → List Value
  | [], done => done
  | entries :: rest, done => tableValues rest (.table (entryValues entries) :: done)

end

def inlineTable (body : List Assignment) : Except Fault Value := do
  .ok (.table (entryValues (← fill [] body)))

def Outline.value (outline : Outline) : Except Fault Value := do
  let entries ← outline.sections.foldlM enter (← fill [] outline.top)
  .ok (.table (entryValues entries))

end SegmentBench.Document
