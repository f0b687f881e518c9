import SegmentBench.Document.Value
import SegmentBench.Text.Numeral

/-!
# Strings of a document

Strings between double quotes have escapes, strings between apostrophes have
none.  Either kind between three quotes may hold line breaks, and up to two quotes
in front of the closing three.
-/

namespace SegmentBench.Document

abbrev StringResult := Except Fault (List Char × List Char)

/-! ## Closing quotes -/

/-- The rest of a closing triple, behind its first quote.  Of more than three quotes
in a row up to two belong to the string, and their number is the first result. -/
def closing? (quote : Char) : List Char → Option (Nat × List Char)
  | a :: b :: rest =>
      if a = quote ∧ b = quote then
        match rest.takeWhile (· = quote) with
        | [] => some (0, rest)
        | [_] => some (1, rest.drop 1)
        | _ => some (2, rest.drop 2)
      else none
  | _ => none

def finish? (quote : Char) (tripled : Bool) (read rest : List Char) :
    Option (List Char × List Char) :=
  if tripled then
    (closing? quote rest).map fun (count, next) =>
      ((List.replicate count quote ++ read).reverse, next)
  else some (read.reverse, rest)

def breaks (text : List Char) : Bool := (lineBreak? text).isSome

/-! ## Escapes -/

def escaped? : Char → Option Char
  | 'b' => some '\x08'
  | 't' => some '\t'
  | 'n' => some '\n'
  | 'f' => some '\x0c'
  | 'r' => some '\r'
  | 'e' => some '\x1b'
  | '"' => some '"'
  | '\\' => some '\\'
  | _ => none

def codeWidth? : Char → Option Nat
  | 'x' => some 2
  | 'u' => some 4
  | 'U' => some 8
  | _ => none

def character? (code : Nat) : Option Char :=
  if code.isValidChar then some (Char.ofNat code) else none

/-! ## Double quotes

The characters read so far are kept last first.  A backslash at the end of a line
removes the blanks and line breaks up to the next other character. -/

mutual

def basicFrom (tripled : Bool) (read : List Char) : List Char → StringResult
  | [] => .error .unfinishedString
  | c :: rest =>
      if c = '"' then
        match finish? '"' tripled read rest with
        | some result => .ok result
        | none => basicFrom tripled (c :: read) rest
      else if c = '\\' then escapeFrom tripled read rest
      else if isForbidden c && !(tripled && breaks (c :: rest)) then
        .error (.forbiddenCharacter c)
      else basicFrom tripled (c :: read) rest
termination_by structural text => text

def escapeFrom (tripled : Bool) (read : List Char) : List Char → StringResult
  | [] => .error .unfinishedString
  | c :: rest =>
      match escaped? c with
      | some decoded => basicFrom tripled (decoded :: read) rest
      | none =>
          match codeWidth? c with
          | some width => codeFrom tripled read width 0 rest
          | none =>
              if tripled && (isSpace c || breaks (c :: rest)) then
                joinFrom tripled read (c = '\n') rest
              else .error .unknownEscape
termination_by structural text => text

def codeFrom (tripled : Bool) (read : List Char) (missing value : Nat) :
    List Char → StringResult
  | [] => .error .unfinishedString
  | c :: rest =>
      match Numeral.digit? 16 c with
      | none => .error .unknownEscape
      | some digit =>
          if 1 < missing then codeFrom tripled read (missing - 1) (value * 16 + digit) rest
          else
            match character? (value * 16 + digit) with
            | some decoded => basicFrom tripled (decoded :: read) rest
            | none => .error .unknownEscape
termination_by structural text => text

/-- `broken` tells whether the end of the line has been passed. -/
def joinFrom (tripled : Bool) (read : List Char) (broken : Bool) :
    List Char → StringResult
  | [] => .error .unfinishedString
  | c :: rest =>
      if isSpace c || breaks (c :: rest) then
        joinFrom tripled read (broken || c = '\n') rest
      else if !broken then .error .unknownEscape
      else if c = '"' then
        match finish? '"' tripled read rest with
        | some result => .ok result
        | none => basicFrom tripled (c :: read) rest
      else if c = '\\' then escapeFrom tripled read rest
      else if isForbidden c then .error (.forbiddenCharacter c)
      else basicFrom tripled (c :: read) rest
termination_by structural text => text

end

/-! ## Apostrophes -/

def literalFrom (tripled : Bool) (read : List Char) : List Char → StringResult
  | [] => .error .unfinishedString
  | c :: rest =>
      if c = '\'' then
        match finish? '\'' tripled read rest with
        | some result => .ok result
        | none => literalFrom tripled (c :: read) rest
      else if isForbidden c && !(tripled && breaks (c :: rest)) then
        .error (.forbiddenCharacter c)
      else literalFrom tripled (c :: read) rest

/-! ## Strings by their opening -/

def skipFirstBreak (text : List Char) : List Char := (lineBreak? text).getD text

def lineString? : List Char → Option StringResult
  | '"' :: rest => some (basicFrom false [] rest)
  | '\'' :: rest => some (literalFrom false [] rest)
  | _ => none

def string? : List Char → Option StringResult
  | '"' :: '"' :: '"' :: rest => some (basicFrom true [] (skipFirstBreak rest))
  | '\'' :: '\'' :: '\'' :: rest => some (literalFrom true [] (skipFirstBreak rest))
  | text => lineString? text

end SegmentBench.Document
