/-!
# Steps that may fail, and checks of lists

A step behind another is taken when the first gives a result, and everything that is given
in the end was given by both.  What is said of all elements of a list is checked along the
list.
-/

namespace SegmentBench

variable {ε α β : Type}

theorem ok_bind (content : α) (next : α → Except ε β) :
    (Except.ok content >>= next) = next content := rfl

theorem error_bind (fault : ε) (next : α → Except ε β) :
    (Except.error fault >>= next) = .error fault := rfl

theorem bind_eq_ok {first : Except ε α} {next : α → Except ε β} {result : β}
    (hread : (first >>= next) = .ok result) :
    ∃ content, first = .ok content ∧ next content = .ok result := by
  cases first with
  | error fault => cases hread
  | ok content => exact ⟨content, rfl, hread⟩

theorem bind_ok_of_eq {read : Except ε α} {content : α} {enter : α → β}
    (hread : read = .ok content) :
    (read >>= fun content => .ok (enter content)) = .ok (enter content) := by
  rw [hread]
  rfl

/-- Preferred to a check of the whole type, which there is for characters and bytes too. -/
instance (priority := 2000) decidableForallMem {holds : α → Prop} [DecidablePred holds]
    (elements : List α) :
    Decidable (∀ element ∈ elements, holds element) :=
  List.decidableBAll holds elements

end SegmentBench
