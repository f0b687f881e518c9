/-!
# Placeholders

A placeholder is a dollar sign, a brace, a name of one or more characters other than
a closing brace, and that brace.  Known names are replaced by their values, which
are not searched again; an unknown name leaves its placeholder as it is.
-/

namespace SegmentBench

abbrev Environment := String → Option String

namespace Placeholder

def isName (c : Char) : Bool := c ≠ '\x7d'

def name? (text : List Char) : Option (List Char × List Char) :=
  match text.takeWhile isName, text.dropWhile isName with
  | name, _ :: rest => if name = [] then none else some (name, rest)
  | _, [] => none

theorem name?_length {text name rest : List Char} (found : name? text = some (name, rest)) :
    rest.length < text.length := by
  have split : text.dropWhile isName <:+ text := List.dropWhile_suffix isName
  unfold name? at found
  split at found
  · rename_i heq
    rw [heq] at split
    have bound := split.length_le
    split at found
    · cases found
    · cases found
      exact bound
  · cases found

inductive Piece where
  | plain (c : Char)
  | named (name : List Char)
  deriving DecidableEq, Repr

def pieces (text : List Char) : List Piece :=
  match text with
  | '$' :: '\x7b' :: rest =>
      match _found : name? rest with
      | some (name, rest) => .named name :: pieces rest
      | none => .plain '$' :: pieces ('\x7b' :: rest)
  | c :: rest => .plain c :: pieces rest
  | [] => []
termination_by text.length
decreasing_by
  · have := name?_length _found
    simp
    omega
  · simp
  · simp

def written (name : List Char) : List Char := '$' :: '\x7b' :: name ++ ['\x7d']

def value (environment : Environment) (name : List Char) : List Char :=
  match environment (String.ofList name) with
  | some value => value.toList
  | none => written name

def Piece.value (environment : Environment) : Piece → List Char
  | .plain c => [c]
  | .named name => Placeholder.value environment name

def substitute (environment : Environment) (text : List Char) : List Char :=
  (pieces text).flatMap fun piece => piece.value environment

def names (text : List Char) : List String :=
  (pieces text).filterMap fun piece =>
    match piece with
    | .plain _ => none
    | .named name => some (String.ofList name)

end Placeholder

end SegmentBench
