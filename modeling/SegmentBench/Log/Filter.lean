import SegmentBench.Config.Placeholder
import SegmentBench.Log.Event
import SegmentBench.Log.Pattern
import SegmentBench.Text.Alphanumeric
import SegmentBench.Text.Blank
import SegmentBench.Text.Numeral

/-!
# Log filters

A filter is a list of directives, each with a target, the fields that an event must
have, and the most detailed level that it lets pass.  Of the directives that apply to
an event the most specific decides, and an event to which none applies is dropped.
A directive about a span of time, or about the value of a field, applies to no event.
-/

namespace SegmentBench

structure Directive where
  target : Option String
  fields : List String
  rank : Nat
  isAboutSpans : Bool
  deriving DecidableEq, Repr

abbrev Filter := List Directive

namespace Directive

def messageField : String := "message"

def applies (directive : Directive) (event : Event) : Bool :=
  !directive.isAboutSpans
    && (directive.target.getD "").toList.isPrefixOf event.target.toList
    && directive.fields.all (· == messageField)

def specificity (directive : Directive) : Nat × Nat :=
  (match directive.target with
    | none => 0
    | some target => target.length + 1,
    directive.fields.length)

def isLessSpecific (a b : Directive) : Bool :=
  a.specificity.1 < b.specificity.1
    || (a.specificity.1 == b.specificity.1 && a.specificity.2 < b.specificity.2)

end Directive

namespace Filter

def decisive? (filter : Filter) (event : Event) : Option Directive :=
  (filter.filter fun directive => directive.applies event).foldl
    (fun best directive =>
      match best with
      | none => some directive
      | some other => if directive.isLessSpecific other then some other else some directive)
    none

def passes (filter : Filter) (event : Event) : Bool :=
  match filter.decisive? event with
  | none => false
  | some directive => event.level.rank ≤ directive.rank

def usual (verbose : Bool) : Filter :=
  if verbose then
    [⟨some Event.program, [], Level.debug.rank, false⟩, ⟨none, [], Level.info.rank, false⟩]
  else [⟨some Event.program, [], Level.info.rank, false⟩]

end Filter

/-! ## Reading directives

A directive is `target[span\x7bfields\x7d]=level`, of which each part may be missing; a
word alone is a level if it is the name or the number of one, and else a target. -/

namespace Directive

def off : Nat := 0

def namedRank? (text : List Char) : Option Nat :=
  let word := String.ofList (text.map Char.toLower)
  if word = "off" then some off
  else (Level.all.find? fun level => level.name = word.toUpper).map Level.rank

def rank? (text : List Char) : Option Nat :=
  match Numeral.readUInt64 text with
  | .ok number =>
      if number.toNat ≤ Level.trace.rank then some number.toNat else none
  | .error _ => namedRank? text

def rankOrAll? (text : List Char) : Option Nat :=
  if text = [] then some Level.trace.rank else rank? text

inductive Part where
  | start
  | word (first : Nat)
  | span (first : Nat)
  | field (first : Nat)
  | fields
  | behind
  | level (first : Nat)
  deriving DecidableEq, Repr

def everything : Directive := ⟨none, [], Level.trace.rank, false⟩

def canStart (c : Char) : Bool := c = '-' || c = ':' || c = '_' || isAlphanumeric c

def addField? (directive : Directive) (text : List Char) : Option Directive :=
  let named :=
    { directive with fields := directive.fields ++ [String.ofList (text.takeWhile (· ≠ '='))] }
  match text, text.dropWhile (· ≠ '=') with
  | [], _ => none
  | _, [] => some named
  | _, _ :: rest =>
      if Pattern.isValue (rest.takeWhile (· ≠ '=')) then some { named with isAboutSpans := true }
      else none

/-- The text behind a number of bytes, unless that is inside a character. -/
def dropBytes? (count : Nat) : List Char → Option (List Char)
  | [] => if count = 0 then some [] else none
  | c :: rest =>
      if count = 0 then some (c :: rest)
      else if count < c.utf8Size then none
      else dropBytes? (count - c.utf8Size) rest

def slice? (text : List Char) (first last : Nat) : Option (List Char) := do
  let behind ← dropBytes? last text
  let part ← dropBytes? first text
  some (part.take (part.length - behind.length))

/-- One character of the scan; `cut` gives the text of a part up to it. -/
def step? (cut : Nat → Option (List Char)) (index : Nat) (part : Part) (directive : Directive)
    (c : Char) : Option (Part × Directive) :=
  match part with
  | .start =>
      if c = '[' then some (.span (index + 1), directive)
      else if canStart c then some (.word index, directive)
      else none
  | .word first =>
      if c = '=' ∨ c = '[' then
        (cut first).map fun target =>
          (if c = '=' then .level (index + 1) else .span (index + 1),
            { directive with target := some (String.ofList target) })
      else some (part, directive)
  | .span first =>
      if c = ']' then some (.behind, { directive with isAboutSpans := true })
      else if c = '\x7b' then
        (cut first).map fun name =>
          (.field (index + 1),
            { directive with isAboutSpans := directive.isAboutSpans || name ≠ [] })
      else some (part, directive)
  | .field first =>
      if c = '\x7d' then (cut first >>= directive.addField?).map (.fields, ·)
      else some (part, directive)
  | .fields => if c = ']' then some (.behind, directive) else none
  | .behind => if c = '=' then some (.level (index + 1), directive) else none
  | .level _ => some (part, directive)

def finish? (rest : Nat → Option (List Char)) (directive : Directive) :
    Part → Option Directive
  | .word first => do
      let word ← rest first
      match rankOrAll? word with
      | some rank => some { directive with rank := rank }
      | none => some { directive with target := some (String.ofList word) }
  | .level first => do
      let rank ← rankOrAll? (← rest first)
      some { directive with rank := rank }
  | .behind => some directive
  | _ => none

def scan? (text : List Char) (index : Nat) (part : Part) (directive : Directive) :
    List Char → Option Directive
  | [] => finish? (dropBytes? · text) directive part
  | c :: rest =>
      match step? (slice? text · index) index part directive c with
      | none => none
      | some (part, directive) => scan? text (index + c.utf8Size) part directive rest

def trim (text : List Char) : List Char :=
  ((text.dropWhile isBlank).reverse.dropWhile isBlank).reverse

/-- The scan passes over blanks at the ends, but the places count from where it began. -/
def ofText? (text : List Char) : Option Directive :=
  scan? text 0 .start everything (trim text)

end Directive

namespace Filter

def pieces (piece : List Char) : List Char → List (List Char)
  | [] => if piece = [] then [] else [piece.reverse]
  | c :: rest =>
      if c = ',' then (if piece = [] then pieces [] rest else piece.reverse :: pieces [] rest)
      else pieces (c :: piece) rest

/-- One malformed directive spoils the filter. -/
def ofText? (text : String) : Option Filter := (pieces [] text.toList).mapM Directive.ofText?

def variableName : String := "RUST_LOG"

def choose (environment : Environment) (verbose : Bool) : Filter :=
  ((environment variableName).bind ofText?).getD (usual verbose)

end Filter

end SegmentBench
