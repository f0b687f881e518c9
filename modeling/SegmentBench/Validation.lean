import SegmentBench.Failure
import SegmentBench.Path

/-!
# Checks of configured values

Each check lets a value of a named field pass or refuses it with a reason.
-/

namespace SegmentBench.Validation

def checkPath (field : String) (path : Path) : Except Failure Unit :=
  if path.bytes = [] then .error (.invalidValue field path.display "Path cannot be empty")
  else if path.shown.contains '\x00' then
    .error (.invalidValue field path.display "Path contains null bytes")
  else .ok ()

def opensPlaceholder : List Char → Bool
  | '$' :: '\x7b' :: _ => true
  | _ :: rest => opensPlaceholder rest
  | [] => false

def checkNoPlaceholder (field value : String) : Except Failure Unit :=
  if opensPlaceholder value.toList then
    .error (.invalidValue field value "Unresolved environment variable")
  else .ok ()

def checkRange {α : Type} (less : α → α → Bool) (text : α → String) (field : String)
    (value least most : α) : Except Failure Unit :=
  if less value least || less most value then
    .error (.invalidValue field (text value)
      ("Value must be between " ++ text least ++ " and " ++ text most))
  else .ok ()

theorem checkRange_eq_ok_iff {α : Type} (less : α → α → Bool) (text : α → String)
    (field : String) (value least most : α) :
    checkRange less text field value least most = .ok () ↔
      less value least = false ∧ less most value = false := by
  unfold checkRange
  cases less value least <;> cases less most value <;> simp

end SegmentBench.Validation
