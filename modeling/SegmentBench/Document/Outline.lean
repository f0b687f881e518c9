import SegmentBench.Document.Strings
import SegmentBench.Document.Tree
import SegmentBench.Document.Word

/-!
# Reading a document

The text of a document is read into assignments and sections, line by line.  The
argument in front of the text bounds how deep the steps of a function may go; a
character is passed at most three steps deeper, so that four for each suffice.
-/

namespace SegmentBench.Document

/-! ## Keys -/

def isBareKeyCharacter (c : Char) : Bool :=
  Numeral.isDigit 36 c || c = '-' || c = '_'

def keyName (text : List Char) : Except Fault (String × List Char) :=
  match lineString? text with
  | some result => result.map fun (name, rest) => (String.ofList name, rest)
  | none =>
      let name := text.takeWhile isBareKeyCharacter
      if name = [] then .error .missingKey
      else .ok (String.ofList name, text.dropWhile isBareKeyCharacter)

/-- How many names a key may have, and how deep arrays and inline tables may be
nested. -/
def deepest : Nat := 80

/-- `parents` holds the names so far, last first. -/
def keyFrom (parents : List String) : Nat → List Char → Except Fault (Key × List Char)
  | 0, _ => .error .unfinished
  | fuel + 1, text => do
      let (name, rest) ← keyName (skipSpaces text)
      match skipSpaces rest with
      | '.' :: more => keyFrom (name :: parents) fuel more
      | rest =>
          if parents.length < deepest then .ok (⟨parents.reverse, name⟩, rest)
          else .error .nestedTooDeep

def key (fuel : Nat) (text : List Char) : Except Fault (Key × List Char) :=
  keyFrom [] fuel text

/-! ## Values -/

def skipGap (inline : Bool) (fuel : Nat) (text : List Char) : Except Fault (List Char) :=
  if inline then skipLines fuel text else .ok (skipSpaces text)

mutual

def value (depth : Nat) : Nat → List Char → Except Fault (Value × List Char)
  | 0, _ => .error .unfinished
  | fuel + 1, text =>
      match text with
      | '[' :: rest =>
          match depth with
          | 0 => .error .nestedTooDeep
          | depth + 1 => items depth [] fuel rest
      | '\x7b' :: rest =>
          match depth with
          | 0 => .error .nestedTooDeep
          | depth + 1 => members depth [] fuel rest
      | _ =>
          match string? text with
          | some result => result.map fun (content, rest) => (.string (String.ofList content), rest)
          | none => do
              let (content, rest) := splitWord text
              if content = [] then .error .missingValue
              else .ok (← word content, rest)
termination_by structural fuel => fuel

def items (depth : Nat) (done : List Value) :
    Nat → List Char → Except Fault (Value × List Char)
  | 0, _ => .error .unfinished
  | fuel + 1, text => do
      match ← skipLines (fuel + 1) text with
      | ']' :: rest => .ok (.array done.reverse, rest)
      | rest => do
          let (item, rest) ← value depth fuel rest
          match ← skipLines (fuel + 1) rest with
          | ',' :: rest => items depth (item :: done) fuel rest
          | ']' :: rest => .ok (.array (item :: done).reverse, rest)
          | [] => .error .missingBracket
          | _ => .error .missingComma
termination_by structural fuel => fuel

def members (depth : Nat) (done : List Assignment) :
    Nat → List Char → Except Fault (Value × List Char)
  | 0, _ => .error .unfinished
  | fuel + 1, text => do
      match ← skipLines (fuel + 1) text with
      | '\x7d' :: rest => .ok (← inlineTable done.reverse, rest)
      | rest => do
          let (assignment, rest) ← assignment true depth fuel rest
          match ← skipLines (fuel + 1) rest with
          | ',' :: rest => members depth (assignment :: done) fuel rest
          | '\x7d' :: rest => .ok (← inlineTable (assignment :: done).reverse, rest)
          | [] => .error .missingBracket
          | _ => .error .missingComma
termination_by structural fuel => fuel

def assignment (inline : Bool) (depth : Nat) :
    Nat → List Char → Except Fault (Assignment × List Char)
  | 0, _ => .error .unfinished
  | fuel + 1, text => do
      let (key, rest) ← key (fuel + 1) text
      match ← skipGap inline (fuel + 1) rest with
      | '=' :: rest => do
          let (value, rest) ← value depth fuel (← skipGap inline (fuel + 1) rest)
          .ok (⟨key, value⟩, rest)
      | _ => .error .missingEquals
termination_by structural fuel => fuel

end

/-! ## Lines -/

def closeHeader (repeated : Bool) : List Char → Except Fault (List Char)
  | ']' :: rest =>
      if repeated then
        match rest with
        | ']' :: rest => .ok rest
        | _ => .error .missingBracket
      else .ok rest
  | _ => .error .missingBracket

def header (fuel : Nat) (repeated : Bool) (text : List Char) :
    Except Fault (Header × List Char) := do
  let (key, rest) ← key fuel text
  .ok (⟨key, repeated⟩, ← closeHeader repeated rest)

structure Reading where
  top : List Assignment
  sections : List Section
  deriving Repr

def Reading.assign (reading : Reading) (assignment : Assignment) : Reading :=
  match reading.sections with
  | [] => { reading with top := assignment :: reading.top }
  | last :: earlier =>
      { reading with sections := { last with body := assignment :: last.body } :: earlier }

def Reading.begin (reading : Reading) (header : Header) : Reading :=
  { reading with sections := ⟨header, []⟩ :: reading.sections }

def Reading.outline (reading : Reading) : Outline :=
  ⟨reading.top.reverse,
    (reading.sections.map fun part => { part with body := part.body.reverse }).reverse⟩

def lines (reading : Reading) : Nat → List Char → Except Fault Outline
  | 0, _ => .error .unfinished
  | fuel + 1, text => do
      match ← skipLines (fuel + 1) text with
      | [] => .ok reading.outline
      | '[' :: '[' :: rest => do
          let (header, rest) ← header (fuel + 1) true rest
          lines (reading.begin header) fuel (← lineEnd rest)
      | '[' :: rest => do
          let (header, rest) ← header (fuel + 1) false rest
          lines (reading.begin header) fuel (← lineEnd rest)
      | rest => do
          let (assignment, rest) ← assignment false deepest fuel rest
          lines (reading.assign assignment) fuel (← lineEnd rest)

def skipMark : List Char → List Char
  | c :: rest => if c.toNat = 0xFEFF then rest else c :: rest
  | [] => []

def outline (text : List Char) : Except Fault Outline :=
  let body := skipMark text
  lines ⟨[], []⟩ (4 * body.length + 4) body

def read (text : List Char) : Except Fault Value := do
  (← outline text).value

end SegmentBench.Document
