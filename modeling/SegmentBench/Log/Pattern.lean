import SegmentBench.Text.Alphanumeric
import SegmentBench.Text.Blank
import SegmentBench.Text.Numeral

/-!
# Patterns

The regular expressions that a log filter may give for the value of a field.  Events
have no field to be compared with one, so all that matters of a pattern is whether it is
well formed and can be made into an automaton.  It can if it is not nested too deep,
matches nothing but whole characters, and asks for no word boundary but those of ASCII.

A pattern stands in front of a closing brace and between equals signs and commas, so
it holds none of them.  Whatever an opening brace begins, it is never closed.
-/

namespace SegmentBench.Pattern

/-! ## Flags -/

/-- The flags that decide what is well formed: whether the pattern is about characters
or bytes, and whether blanks and comments in it are passed over. -/
structure Flags where
  unicode : Bool
  spaced : Bool
  deriving DecidableEq, Repr

def Flags.usual : Flags := ⟨true, false⟩

def Flags.set (flags : Flags) (letter : Char) (value : Bool) : Flags :=
  if letter = 'u' then { flags with unicode := value }
  else if letter = 'x' then { flags with spaced := value }
  else flags

def isFlag (c : Char) : Bool := "imsUuRx".toList.contains c

/-- Reads flags up to the character that ends them, which is the last result.  No flag
stands twice, and a flag follows the only minus sign. -/
def flagsFrom (seen : List Char) (flags : Flags) :
    List Char → Option (List Char × Flags × List Char)
  | [] => none
  | c :: rest =>
      if c = ':' ∨ c = ')' then
        if seen.head? = some '-' then none else some (seen, flags, c :: rest)
      else if seen.contains c then none
      else if c = '-' then flagsFrom (c :: seen) flags rest
      else if isFlag c then flagsFrom (c :: seen) (flags.set c (!seen.contains '-')) rest
      else none

/-! ## Blanks and comments -/

def skipBlanks (comment : Bool) : List Char → List Char
  | [] => []
  | c :: rest =>
      if comment then skipBlanks (c ≠ '\n') rest
      else if isBlank c then skipBlanks false rest
      else if c = '#' then skipBlanks true rest
      else c :: rest

def Flags.skip (flags : Flags) (text : List Char) : List Char :=
  if flags.spaced then skipBlanks false text else text

def peekFrom (comment : Bool) : List Char → Option Char
  | [] => none
  | c :: rest =>
      if isBlank c then peekFrom comment rest
      else if !comment && c = '#' then peekFrom true rest
      else some c

def Flags.peek (flags : Flags) (text : List Char) : Option Char :=
  if flags.spaced then (peekFrom false text).or text.head? else text.head?

/-! ## Escapes -/

inductive Primitive where
  | literal (c : Char) (byte : Bool)
  | boundary
  | place
  | dot
  | class (negated : Bool)
  | property
  deriving DecidableEq, Repr

def character? (code : Nat) : Option Char :=
  if code.isValidChar then some (Char.ofNat code) else none

def code? (flags : Flags) (value : Nat) : Nat → List Char → Option (Nat × List Char)
  | 0, text => some (value, text)
  | _ + 1, [] => none
  | count + 1, c :: rest =>
      match Numeral.digit? 16 c with
      | none => none
      | some digit => code? flags (value * 16 + digit) count (flags.skip rest)

def coded? (flags : Flags) (byte : Bool) (count : Nat) (text : List Char) :
    Option (Primitive × List Char) := do
  let (value, rest) ← code? flags 0 count (flags.skip text)
  some (.literal (← character? value) byte, rest)

def isCategory (c : Char) : Bool := "LMNPSZC".toList.contains c.toUpper

def property? (flags : Flags) (text : List Char) : Option (Primitive × List Char) :=
  match flags.skip text with
  | c :: rest => if isCategory c then some (.property, flags.skip rest) else none
  | [] => none

def isAsciiAlphanumeric (c : Char) : Bool := Numeral.isDigit 36 c

def special? : Char → Option Char
  | 'a' => some '\x07'
  | 'f' => some '\x0c'
  | 't' => some '\t'
  | 'n' => some '\n'
  | 'r' => some '\r'
  | 'v' => some '\x0b'
  | _ => none

/-- What follows a backslash.  A number would refer to a group, which no automaton
can follow. -/
def escape? (flags : Flags) : List Char → Option (Primitive × List Char)
  | [] => none
  | c :: rest =>
      if c = 'x' then coded? flags true 2 rest
      else if c = 'u' then coded? flags false 4 rest
      else if c = 'U' then coded? flags false 8 rest
      else if c = 'p' ∨ c = 'P' then property? flags rest
      else if c = 'd' ∨ c = 's' ∨ c = 'w' then some (.class false, rest)
      else if c = 'D' ∨ c = 'S' ∨ c = 'W' then some (.class true, rest)
      else if c = 'A' ∨ c = 'z' then some (.place, rest)
      else if c = 'b' ∧ rest.head? = some '\x7b' then none
      else if c = 'b' ∨ c = 'B' ∨ c = '<' ∨ c = '>' then some (.boundary, rest)
      else if c < '\x80' ∧ ¬ isAsciiAlphanumeric c then some (.literal c false, rest)
      else (special? c).map fun c => (.literal c false, rest)

def Primitive.fits (flags : Flags) : Primitive → Bool
  | .literal c byte => flags.unicode || !byte || c < '\x80'
  | .boundary => !flags.unicode
  | .place => true
  | .dot => flags.unicode
  | .class negated => flags.unicode || !negated
  | .property => flags.unicode

/-! ## Depth -/

def joinedDepth : List Nat → Nat
  | [] => 0
  | [depth] => depth
  | depths => depths.foldl max 0 + 1

def deepest : Nat := 250

/-! ## Bracketed classes -/

/-- What surrounds the part of a class that is being read: the items in front of an
inner class, or the left side of an operator. -/
inductive Surrounding where
  | items (depths : List Nat)
  | operand (depth : Nat)
  deriving DecidableEq, Repr

/-- How far the beginning of a class has been read, where a minus sign and then a
closing bracket stand for themselves. -/
inductive Start where
  | first
  | minus
  | passed
  deriving DecidableEq, Repr

structure Bracket where
  around : List Surrounding
  items : List Nat
  start : Start
  deriving DecidableEq, Repr

namespace Bracket

def add (bracket : Bracket) (depth : Nat) : Bracket :=
  { bracket with items := depth :: bracket.items, start := .passed }

def combined (bracket : Bracket) : Nat × List Surrounding :=
  let depth := joinedDepth bracket.items
  match bracket.around with
  | .operand left :: around => (max left depth + 1, around)
  | around => (depth, around)

def operator (bracket : Bracket) : Bracket :=
  let (depth, around) := bracket.combined
  ⟨.operand depth :: around, [], .passed⟩

def open? (flags : Flags) (around : List Surrounding) (text : List Char) :
    Option (Bracket × List Char) :=
  match flags.skip text with
  | '^' :: rest => if flags.unicode then some (⟨around, [], .first⟩, rest) else none
  | rest => some (⟨around, [], .first⟩, rest)

end Bracket

def classNames : List String :=
  ["alnum", "alpha", "ascii", "blank", "cntrl", "digit", "graph", "lower", "print", "punct",
    "space", "upper", "word", "xdigit"]

def named? : List Char → Option (Bool × List Char)
  | ':' :: text =>
      let (negated, text) :=
        match text with
        | '^' :: rest => (true, rest)
        | _ => (false, text)
      match text.dropWhile (· ≠ ':') with
      | ':' :: ']' :: rest =>
          if classNames.contains (String.ofList (text.takeWhile (· ≠ ':'))) then
            some (negated, rest)
          else none
      | _ => none
  | _ => none

def classItem? (flags : Flags) : List Char → Option (Primitive × List Char)
  | [] => none
  | c :: rest => if c = '\\' then escape? flags rest else some (.literal c false, rest)

def Primitive.isClassItem (flags : Flags) : Primitive → Bool
  | .literal c _ => flags.unicode || c < '\x80'
  | .boundary | .place | .dot => false
  | .class negated => flags.unicode || !negated
  | .property => flags.unicode

def range? (flags : Flags) (text : List Char) : Option (List Char) := do
  let (low, rest) ← classItem? flags text
  match flags.skip rest with
  | [] => none
  | c :: more =>
      let next := flags.peek more
      if c ≠ '-' ∨ next = some ']' ∨ next = some '-' then
        if low.isClassItem flags then some (c :: more) else none
      else
        match low, ← classItem? flags (flags.skip more) with
        | .literal low _, (.literal high byte, rest) =>
            if low ≤ high ∧ (Primitive.literal high byte).isClassItem flags then some rest
            else none
        | _, _ => none

def bracket? (flags : Flags) (bracket : Bracket) : Nat → List Char → Option (Nat × List Char)
  | 0, _ => none
  | fuel + 1, text =>
      match flags.skip text with
      | [] => none
      | c :: rest =>
          if c = '-' ∧ bracket.start ≠ .passed then
            bracket? flags { bracket.add 0 with start := .minus } fuel rest
          else if c = ']' ∧ bracket.start = .first then bracket? flags (bracket.add 0) fuel rest
          else if c = '[' then
            match named? rest with
            | some (negated, rest) =>
                if flags.unicode || !negated then bracket? flags (bracket.add 0) fuel rest
                else none
            | none => do
                let around := .items bracket.items :: bracket.around
                let (inner, rest) ← Bracket.open? flags around rest
                bracket? flags inner fuel rest
          else if c = ']' then
            match bracket.combined with
            | (depth, .items items :: around) =>
                bracket? flags ⟨around, (depth + 1) :: items, .passed⟩ fuel rest
            | (depth, _) => some (depth + 1, rest)
          else if (c = '&' ∨ c = '-' ∨ c = '~') ∧ rest.head? = some c then
            bracket? flags bracket.operator fuel (rest.drop 1)
          else do bracket? flags (bracket.add 0) fuel (← range? flags (c :: rest))

/-! ## Groups -/

structure Item where
  depth : Nat
  repeatable : Bool
  deriving DecidableEq, Repr

structure Body where
  alternatives : List Nat
  items : List Item
  deriving DecidableEq, Repr

namespace Body

def empty : Body := ⟨[], []⟩

def add (body : Body) (depth : Nat) : Body :=
  { body with items := ⟨depth, true⟩ :: body.items }

def lastDepth (body : Body) : Nat := joinedDepth (body.items.map Item.depth)

def branch (body : Body) : Body := ⟨body.lastDepth :: body.alternatives, []⟩

def depth (body : Body) : Nat := joinedDepth (body.lastDepth :: body.alternatives)

def repeat? (body : Body) : Option Body :=
  match body.items with
  | ⟨depth, true⟩ :: items => some { body with items := ⟨depth + 1, true⟩ :: items }
  | _ => none

end Body

/-- The groups around the current one, each with the flags that count behind it, and
the names of groups so far. -/
structure Reading where
  around : List (Body × Flags)
  body : Body
  flags : Flags
  names : List (List Char)
  deriving DecidableEq, Repr

namespace Reading

def start : Reading := ⟨[], Body.empty, Flags.usual, []⟩

def add (reading : Reading) (depth : Nat) : Reading :=
  { reading with body := reading.body.add depth }

def enter (reading : Reading) (flags : Flags) : Reading :=
  { reading with
    around := (reading.body, reading.flags) :: reading.around
    body := Body.empty
    flags := flags }

def leave? (reading : Reading) : Option Reading :=
  match reading.around with
  | [] => none
  | (body, flags) :: around =>
      some { reading with
        around := around
        body := body.add (reading.body.depth + 1)
        flags := flags }

def isNameStart (c : Char) : Bool := c = '_' || isLetter c

def isNameCharacter (c : Char) : Bool :=
  c = '_' || c = '.' || c = '[' || c = ']' || isAlphanumeric c

def enterNamed? (reading : Reading) (text : List Char) : Option (Reading × List Char) :=
  let name := text.takeWhile (· ≠ '>')
  match text.dropWhile (· ≠ '>') with
  | [] => none
  | _ :: rest =>
      if (name.head?.map isNameStart).getD false ∧ name.all isNameCharacter
          ∧ ¬ reading.names.contains name then
        some ({ reading.enter reading.flags with names := name :: reading.names }, rest)
      else none

def enterFlagged? (reading : Reading) (text : List Char) : Option (Reading × List Char) :=
  match flagsFrom [] reading.flags text with
  | some (_, flags, ':' :: rest) => some (reading.enter flags, rest)
  | some (_ :: _, flags, ')' :: rest) =>
      let items := ⟨0, false⟩ :: reading.body.items
      some ({ reading with body := { reading.body with items := items }, flags := flags }, rest)
  | _ => none

def group? (reading : Reading) (text : List Char) : Option (Reading × List Char) :=
  match reading.flags.skip text with
  | '?' :: '!' :: _ | '?' :: '<' :: '!' :: _ => none
  | '?' :: 'P' :: '<' :: rest | '?' :: '<' :: rest => reading.enterNamed? rest
  | '?' :: rest => reading.enterFlagged? rest
  | rest => some (reading.enter reading.flags, rest)

def primitive? (reading : Reading) (primitive : Primitive) : Option Reading :=
  if primitive.fits reading.flags then some (reading.add 0) else none

def read? (reading : Reading) : Nat → List Char → Option Reading
  | 0, _ => none
  | fuel + 1, text =>
      match reading.flags.skip text with
      | [] => some reading
      | c :: rest =>
          if c = '(' then do
            let (reading, rest) ← reading.group? rest
            reading.read? fuel rest
          else if c = ')' then do (← reading.leave?).read? fuel rest
          else if c = '|' then { reading with body := reading.body.branch }.read? fuel rest
          else if c = '[' then do
            let (bracket, rest) ← Bracket.open? reading.flags [] rest
            let (depth, rest) ← bracket? reading.flags bracket (rest.length + 1) rest
            (reading.add depth).read? fuel rest
          else if c = '?' ∨ c = '*' ∨ c = '+' then do
            let body ← reading.body.repeat?
            { reading with body := body }.read? fuel
              (if rest.head? = some '?' then rest.drop 1 else rest)
          else if c = '\x7b' then none
          else if c = '\\' then do
            let (primitive, rest) ← escape? reading.flags rest
            (← reading.primitive? primitive).read? fuel rest
          else if c = '.' then do (← reading.primitive? .dot).read? fuel rest
          else (reading.add 0).read? fuel rest

end Reading

def isWellFormed (text : List Char) : Bool :=
  match Reading.start.read? (text.length + 1) text with
  | some reading => reading.around.isEmpty && reading.body.depth ≤ deepest
  | none => false

/-! ## Numbers -/

def withoutSign : List Char → List Char
  | '+' :: rest | '-' :: rest => rest
  | text => text

def isExponent : List Char → Bool
  | [] => true
  | c :: rest =>
      let digits := withoutSign rest
      c.toLower = 'e' && !digits.isEmpty && digits.all Numeral.isDecimal

def isDecimal (text : List Char) : Bool :=
  let rest := text.dropWhile Numeral.isDecimal
  match rest with
  | '.' :: places =>
      (text.takeWhile Numeral.isDecimal ++ places.takeWhile Numeral.isDecimal) ≠ []
        && isExponent (places.dropWhile Numeral.isDecimal)
  | _ => text.takeWhile Numeral.isDecimal ≠ [] && isExponent rest

def isNumber (text : List Char) : Bool :=
  let body := withoutSign text
  ["inf", "infinity", "nan"].contains (String.ofList (body.map Char.toLower)) || isDecimal body

def isValue (text : List Char) : Bool := isNumber text || isWellFormed text

end SegmentBench.Pattern
