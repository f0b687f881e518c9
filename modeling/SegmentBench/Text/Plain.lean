import SegmentBench.Text.Utf8

/-!
# Text without terminal controls

What a terminal shows of a text when its control characters and the control
sequences that an escape character introduces are left out.  Line ends and other
blanks stay, even in the middle of most sequences.
-/

namespace SegmentBench.Plain

/-- What the characters so far have begun: nothing, an escape sequence, one with
marks in it, a control sequence, a device command with what its head holds so far, or
a string, of which a title is one that a bell ends. -/
inductive Sequence where
  | outside
  | escape
  | marked
  | control
  | command
  | numbered
  | flagged
  | title
  | message
  deriving DecidableEq, Repr

namespace Sequence

def isMark (c : Char) : Bool := ' ' ≤ c && c ≤ '/'

def isFinal (c : Char) : Bool := '@' ≤ c && c ≤ '~'

def ofLetter (c : Char) : Sequence :=
  if isMark c then marked
  else if c = '[' then control
  else if c = 'P' then command
  else if c = ']' then title
  else if c = 'X' || c = '^' || c = '_' then message
  else outside

def continued (sequence : Sequence) (c : Char) : Sequence :=
  match sequence with
  | outside => outside
  | escape => ofLetter c
  | marked => if isMark c then marked else outside
  | control => if isFinal c then outside else control
  | command => if isFinal c then message else if isMark c then flagged else numbered
  | numbered =>
      if isFinal c || ('<' ≤ c && c ≤ '?') then message
      else if isMark c then flagged
      else numbered
  | flagged => if isMark c then flagged else message
  | title => title
  | message => message

def endsMessage (c : Char) : Bool := (String.utf8EncodeChar c).contains 0x9C

def next (sequence : Sequence) (c : Char) : Sequence :=
  if c = '\x1b' then escape
  else if c = '\x18' || c = '\x1a' then outside
  else if c = '\x07' && sequence = title then outside
  else if c < ' ' || c = '\x7f' then sequence
  else if c < '\x80' then sequence.continued c
  else if sequence = message && endsMessage c then outside
  else sequence

def isOpen : Sequence → Bool
  | outside | escape | marked | control => true
  | command | numbered | flagged | title | message => false

end Sequence

def isBlankControl (c : Char) : Bool := c = '\t' || c = '\n' || c = '\x0c' || c = '\r'

def isShown (sequence : Sequence) (c : Char) : Bool :=
  (sequence.isOpen && isBlankControl c)
    || (sequence = .outside && ' ' ≤ c && c ≠ '\x7f')

/-- A blank that is shown interrupts the sequence around it.  What follows is shown as
outside of all, up to the next character that is not; there the sequence goes on if it
`resumes` and no character beyond ASCII was shown in the meantime. -/
def textFrom (resumes showing : Bool) (sequence : Sequence) : List Char → List Char
  | [] => []
  | c :: rest =>
      if isShown (if showing then .outside else sequence) c then
        c :: textFrom resumes true (if resumes && c < '\x80' then sequence else .outside) rest
      else textFrom resumes false (sequence.next c) rest

def text (resumes : Bool) (text : List Char) : List Char := textFrom resumes false .outside text

end SegmentBench.Plain
