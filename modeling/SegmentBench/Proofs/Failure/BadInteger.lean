import SegmentBench.Failure
import SegmentBench.Proofs.Text.Quoted

/-!
# The text of a bad integer

What is told of a word that is no integer determines the word and its position, whatever the word
is made of, and stands on one line.
-/

namespace SegmentBench

namespace Failure

open Numeral (digits)

/-! ## One line -/

theorem toList_message_badInteger (index : Nat) (token : String) (fault : Numeral.Fault) :
    (badInteger index token fault).message.toList =
      "Invalid integer ".toList ++ quoted token.toList ++ " at position ".toList ++
        digits 10 index ++ ": ".toList ++ fault.message.toList := by
  have hmessage : (badInteger index token fault).message =
      "Invalid integer " ++ quotedText token ++ " at position " ++ Numeral.natural index ++ ": " ++
        fault.message := rfl
  rw [hmessage, quotedText]
  simp only [String.toList_append, String.toList_ofList, Numeral.toList_natural]

theorem isGraphic_digits (value : Nat) : ∀ c ∈ digits 10 value, isGraphic c = true := by
  have hall : ∀ c ∈ "0123456789".toList, isGraphic c = true := by decide
  intro c hmem
  exact hall c (Numeral.mem_of_isDecimal (Numeral.isDecimal_of_mem_digits hmem))

theorem isGraphic_fault (fault : Numeral.Fault) :
    ∀ c ∈ fault.message.toList, isGraphic c = true := by
  cases fault <;> decide

theorem isGraphic_message_badInteger (index : Nat) (token : String) (fault : Numeral.Fault) :
    ∀ c ∈ (badInteger index token fault).message.toList, isGraphic c = true := by
  simp only [toList_message_badInteger, List.forall_mem_append]
  exact ⟨⟨⟨⟨⟨by decide, isGraphic_quoted _⟩, by decide⟩, isGraphic_digits index⟩, by decide⟩,
    isGraphic_fault fault⟩

/-! ## What it tells -/

theorem colon_notMem_fault (fault : Numeral.Fault) : ':' ∉ ' ' :: fault.message.toList := by
  cases fault <;> decide

theorem fault_message_injective {first second : Numeral.Fault}
    (hmessages : first.message = second.message) : first = second := by
  cases first <;> cases second <;> simp_all [Numeral.Fault.message]

/-- The text tells the word, its position and why it is no integer, and none of its characters is
a control or ends a line. -/
theorem badInteger_message (index other : Nat) (token word : String)
    (fault cause : Numeral.Fault) :
    ((badInteger index token fault).message = (badInteger other word cause).message ↔
      index = other ∧ token = word ∧ fault = cause) ∧
    ∀ c ∈ (badInteger index token fault).message.toList, ¬IsControl c ∧ breaksLine c = false := by
  constructor
  · constructor
    · intro hmessages
      have htexts := congrArg String.toList hmessages
      simp only [toList_message_badInteger, List.append_assoc, List.append_cancel_left_eq] at htexts
      obtain ⟨htoken, hposition⟩ := quoted_append_inj htexts
      have hcolon : ": ".toList = [':', ' '] := rfl
      simp only [List.append_cancel_left_eq, hcolon, List.cons_append, List.nil_append] at hposition
      obtain ⟨hindex, -, hfault⟩ :=
        (List.append_cons_inj_of_notMem (Numeral.notMem_digits (by decide) index)
          (colon_notMem_fault fault)).mp hposition
      exact ⟨Numeral.digits_injective hindex, String.toList_inj.mp htoken,
        fault_message_injective (String.toList_inj.mp (List.cons.inj hfault).2)⟩
    · rintro ⟨rfl, rfl, rfl⟩
      rfl
  · intro c hmem
    have hgraphic := isGraphic_message_badInteger index token fault c hmem
    exact ⟨not_isControl_of_isGraphic hgraphic, breaksLine_of_isGraphic hgraphic⟩

theorem badInteger_message_quotes :
    (badInteger 4 "7\" at position 2:\n" .invalidDigit).message =
        "Invalid integer \"7\\\" at position 2:\\n\" at position 4: invalid digit found in string" ∧
      (badInteger 4 "7\" at position 2:\n" .invalidDigit).message ≠
        (badInteger 2 "7" .invalidDigit).message ∧
      '\\' ∈ (badInteger 4 "7\" at position 2:\n" .invalidDigit).message.toList ∧
      ¬IsControl '\\' ∧ breaksLine '\\' = false := by
  obtain ⟨htells, hline⟩ :=
    badInteger_message 4 2 "7\" at position 2:\n" "7" .invalidDigit .invalidDigit
  have hmem : '\\' ∈ (badInteger 4 "7\" at position 2:\n" .invalidDigit).message.toList := by
    decide +kernel
  exact ⟨by decide +kernel, fun hmessages => absurd (htells.mp hmessages).1 (by decide), hmem,
    hline _ hmem⟩

end Failure

end SegmentBench
