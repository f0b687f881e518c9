import SegmentBench.Document.Value
import SegmentBench.Text.Numeral

/-!
# Words of a document

The values that are written without quotes or brackets: booleans, integers in four
bases, floating-point numbers, dates and times.  A word goes on up to the first
character that separates values, and its first characters decide which kind of value
it has to be.
-/

namespace SegmentBench.Document

/-! ## Digits -/

def separatedFrom (ready : Bool) (digit : Char → Bool) : List Char → Bool
  | [] => true
  | c :: rest =>
      if c = '_' then
        ready && (rest.head?.map digit).getD false && separatedFrom false digit rest
      else separatedFrom (digit c) digit rest

/-- Each underscore has a digit behind it, and in front of it a digit or the first
character of the text, whatever that is. -/
def separated (digit : Char → Bool) : List Char → Bool
  | [] => true
  | c :: rest => c ≠ '_' && separatedFrom true digit rest

def withoutUnderscores (text : List Char) : List Char := text.filter (· ≠ '_')

def passDigits? (text : List Char) : Option (List Char) :=
  let run := text.takeWhile fun c => Numeral.isDecimal c || c = '_'
  if run.any Numeral.isDecimal then some (text.drop run.length) else none

def passWhole? (text : List Char) : Option (List Char) :=
  let run := text.takeWhile fun c => Numeral.isDecimal c || c = '_'
  if text.head? = some '0' ∧ 1 < (withoutUnderscores run).length then none
  else passDigits? text

def signed (negative : Bool) (value : Nat) : Int := if negative then -value else value

def splitSign : List Char → Bool × List Char
  | '-' :: rest => (true, rest)
  | '+' :: rest => (false, rest)
  | text => (false, text)

/-! ## Integers -/

def leastInteger : Int := -Nat.pow 2 127

def greatestInteger : Int := Nat.pow 2 128 - 1

def integer (value : Int) : Value :=
  if leastInteger ≤ value ∧ value ≤ greatestInteger then .integer value else .oversized

def base? : Char → Option Nat
  | 'x' => some 16
  | 'o' => some 8
  | 'b' => some 2
  | _ => none

def basedInteger (base : Nat) (text : List Char) : Except Fault Value :=
  let digits := withoutUnderscores text
  if digits.all (Numeral.isDigit base) && separated (Numeral.isDigit 16) text then
    .ok (if digits = [] then .oversized else integer (Numeral.append base 0 digits))
  else .error .malformedValue

/-- Digits with an underscore among them may go on in any characters, but then they
have no value. -/
def wholeNumber (negative : Bool) (body : List Char) : Value :=
  let digits := withoutUnderscores body
  if digits.all Numeral.isDecimal then integer (signed negative (Numeral.append 10 0 digits))
  else .oversized

/-! ## Floating-point numbers -/

def isExponentMark (c : Char) : Bool := c = 'e' || c = 'E'

def passPlaces? : List Char → Option (List Char)
  | '.' :: rest => passDigits? rest
  | text => some text

def passExponent? : List Char → Option (List Char)
  | [] => some []
  | c :: rest => if isExponentMark c then passDigits? (splitSign rest).2 else some (c :: rest)

def isFloat (body : List Char) : Bool :=
  (passWhole? body >>= passPlaces? >>= passExponent?) == some []

/-- No exponent is read beyond this by more than one digit. -/
def exponentLimit : Nat := Nat.pow 2 16

def exponentMagnitude (digits : List Char) : Nat :=
  digits.foldl
    (fun total c => if total < exponentLimit then Numeral.append 10 total [c] else total) 0

def exponent : List Char → Int
  | [] => 0
  | _ :: rest =>
      let (negative, digits) := splitSign rest
      signed negative (exponentMagnitude digits)

def float (negative : Bool) (body : List Char) : Value :=
  let text := withoutUnderscores body
  let mantissa := text.takeWhile (!isExponentMark ·)
  let places := (mantissa.dropWhile (· ≠ '.')).drop 1
  let value :=
    Binary64.ofDecimal negative (mantissa.filter Numeral.isDecimal)
      (exponent (text.dropWhile (!isExponentMark ·)) - places.length)
  if value.magnitude = .infinite then .oversized else .float value

def infinite (negative : Bool) : Binary64 := Binary64.ofMagnitude negative Binary64.infiniteBits

def notANumber (negative : Bool) : Binary64 :=
  Binary64.ofMagnitude negative (Binary64.infiniteBits + Nat.pow 2 51)

/-! ## Dates and times -/

def fixedDigits? (width : Nat) (text : List Char) : Option (Nat × List Char) :=
  let digits := text.take width
  if digits.length = width ∧ digits.all Numeral.isDecimal then
    some (Numeral.append 10 0 digits, text.drop width)
  else none

def isLeapYear (year : Nat) : Bool := year % 4 = 0 && (year % 100 ≠ 0 || year % 400 = 0)

def daysInMonth (year month : Nat) : Nat :=
  if month = 2 then (if isLeapYear year then 29 else 28)
  else if month = 4 ∨ month = 6 ∨ month = 9 ∨ month = 11 then 30 else 31

def after? (expected : Char) : List Char → Option (List Char)
  | c :: rest => if c = expected then some rest else none
  | [] => none

def date? (text : List Char) : Option (List Char) := do
  let (year, rest) ← fixedDigits? 4 text
  let (month, rest) ← fixedDigits? 2 (← after? '-' rest)
  let (day, rest) ← fixedDigits? 2 (← after? '-' rest)
  if 1 ≤ month ∧ month ≤ 12 ∧ 1 ≤ day ∧ day ≤ daysInMonth year month then some rest
  else none

def fraction? : List Char → Option (List Char)
  | '.' :: rest =>
      match rest with
      | c :: _ =>
          if Numeral.isDecimal c then
            some (rest.dropWhile Numeral.isDecimal)
          else none
      | [] => none
  | text => some text

def time? (text : List Char) : Option (List Char) := do
  let (hour, rest) ← fixedDigits? 2 text
  let (minute, rest) ← fixedDigits? 2 (← after? ':' rest)
  if 23 < hour ∨ 59 < minute then none
  else
    match rest with
    | ':' :: more => do
        let (second, rest) ← fixedDigits? 2 more
        if 60 < second then none else fraction? rest
    | _ => some rest

def zone? : List Char → Option (List Char)
  | 'Z' :: rest | 'z' :: rest => some rest
  | '+' :: rest | '-' :: rest => do
      let (hour, rest) ← fixedDigits? 2 rest
      let (minute, rest) ← fixedDigits? 2 (← after? ':' rest)
      if 23 < hour ∨ 59 < minute then none else some rest
  | text => some text

def isMoment (text : List Char) : Bool :=
  match date? text with
  | some [] => true
  | some (mark :: rest) =>
      (mark = 'T' || mark = 't' || mark = ' ') && (time? rest >>= zone?) == some []
  | none => time? text == some []

/-! ## Words -/

def isWordCharacter (c : Char) : Bool :=
  !("=,[]\x7b\x7d \t#\r\n".toList.contains c)

/-- A word and the text behind it.  A date takes in one space if a digit follows. -/
def splitWord (text : List Char) : List Char × List Char :=
  let word := text.takeWhile isWordCharacter
  let rest := text.dropWhile isWordCharacter
  match rest with
  | ' ' :: c :: more =>
      if date? word = some [] ∧ Numeral.isDecimal c then
        (word ++ ' ' :: (c :: more).takeWhile isWordCharacter,
          (c :: more).dropWhile isWordCharacter)
      else (word, rest)
  | _ => (word, rest)

def number? (text : List Char) : Option Value :=
  let (negative, body) := splitSign text
  let rest := body.dropWhile Numeral.isDecimal
  if rest.head? = some '-' ∨ rest.head? = some ':' then
    if isMoment text then some .moment else none
  else if rest.any fun c => c = '.' || isExponentMark c then
    if isFloat body && separated Numeral.isDecimal text then some (float negative body) else none
  else if rest = [] ∨ rest.head? = some '_' then
    if (passWhole? body).isSome && separated (Numeral.isDigit 16) text then
      some (wholeNumber negative body)
    else none
  else none

def signedWord (text : List Char) : Except Fault Value :=
  let (negative, body) := splitSign text
  if body = ['i', 'n', 'f'] then .ok (.float (infinite negative))
  else if body = ['n', 'a', 'n'] then .ok (.float (notANumber negative))
  else
    match number? text with
    | some value => .ok value
    | none => .error .malformedValue

def word (text : List Char) : Except Fault Value :=
  if text = ['t', 'r', 'u', 'e'] then .ok (.boolean true)
  else if text = ['f', 'a', 'l', 's', 'e'] then .ok (.boolean false)
  else
    match text with
    | '0' :: letter :: rest =>
        match base? letter with
        | some base => basedInteger base rest
        | none => signedWord text
    | _ => signedWord text

end SegmentBench.Document
