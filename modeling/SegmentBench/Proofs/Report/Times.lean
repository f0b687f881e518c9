import SegmentBench.Proofs.Decimal.Fixed
import SegmentBench.Proofs.Report.Decoded

/-!
# The times of a report

The line of text begins with the elapsed seconds to six places and has the nanoseconds of one
iteration in its brackets to two.  Both are the decimals nearest to the measured values.
-/

namespace SegmentBench.Report

open Fixed (Spells exists_spells_text)
open Json (signed)

/-! ## Around the brackets -/

def beforeBracket (report : Report) : String :=
  Fixed.text 6 report.seconds ++ " seconds: kadane/" ++ report.algorithm.name
    ++ " over " ++ Numeral.natural report.inputSize.toNat ++ " integers x "
    ++ Numeral.natural report.iterations.toNat ++ " iterations "

def behindBracket (report : Report) : String := ", result " ++ resultText "none" report.result

theorem text_eq (report : Report) :
    report.text = report.beforeBracket ++ "(" ++ Fixed.text 2 report.perIteration
      ++ " ns/iteration)" ++ report.behindBracket := by
  have hopening : " iterations (" = " iterations " ++ "(" := rfl
  have hclosing : " ns/iteration), result " = " ns/iteration)" ++ ", result " := rfl
  simp only [text, hopening, hclosing, beforeBracket, behindBracket, String.append_assoc]

theorem bracket_notMem_natural (value : Nat) : '(' ∉ (Numeral.natural value).toList := by
  rw [Numeral.toList_natural]
  exact Numeral.notMem_digits (by decide) value

theorem bracket_notMem_integer (value : Int) : '(' ∉ (Numeral.integer value).toList := by
  rw [Numeral.toList_integer, List.mem_append, not_or]
  exact ⟨by split <;> decide, Numeral.notMem_digits (by decide) _⟩

theorem bracket_notMem_beforeBracket (report : Report)
    (hseconds : '(' ∉ (Fixed.text 6 report.seconds).toList) :
    '(' ∉ report.beforeBracket.toList := by
  have hname : '(' ∉ report.algorithm.name.toList := by
    cases report.algorithm <;> decide
  simp [beforeBracket, hseconds, hname, bracket_notMem_natural]

theorem bracket_notMem_behindBracket (report : Report) : '(' ∉ report.behindBracket.toList := by
  cases hresult : report.result with
  | none => simp [behindBracket, hresult, resultText]
  | some value => simp [behindBracket, hresult, resultText, bracket_notMem_integer]

/-! ## What is written -/

/-- Whoever reads the first word is off by half a microsecond at most. -/
theorem text_times_nearest (report : Report) (hseconds : report.seconds.IsFinite)
    (hperIteration : report.perIteration.IsFinite) :
    (∃ first others scaled, words report.text.toList = first :: others ∧
      Spells 6 report.seconds.signBit scaled first ∧
      IsNearest report.seconds.value (1 / 10 ^ 6) (signed report.seconds.signBit scaled) ∧
      |report.seconds.value - signed report.seconds.signBit scaled * (1 / 10 ^ 6)| ≤
        1 / 10 ^ 6 / 2) ∧
    ∃ before inside behind scaled,
      report.text = before ++ "(" ++ inside ++ " ns/iteration)" ++ behind ∧
      '(' ∉ (before ++ inside ++ behind).toList ∧
      Spells 2 report.perIteration.signBit scaled inside.toList ∧
      IsNearest report.perIteration.value (1 / 10 ^ 2)
        (signed report.perIteration.signBit scaled) := by
  obtain ⟨micros, hfirst, hnearest⟩ := exists_spells_text (by decide : 0 < 6) hseconds
  obtain ⟨hundredths, hinside, hnear⟩ := exists_spells_text (by decide : 0 < 2) hperIteration
  constructor
  · exact ⟨_, _, micros, report.words_text, hfirst, hnearest, hnearest.abs_sub_le (by positivity)⟩
  · have hbefore := report.bracket_notMem_beforeBracket
      (hfirst.notMem (by decide) (by decide) (by decide))
    have hbracket := hinside.notMem (c := '(') (by decide) (by decide) (by decide)
    refine ⟨report.beforeBracket, _, report.behindBracket, hundredths, report.text_eq, ?_, hinside,
      hnear⟩
    simp [hbefore, hbracket, report.bracket_notMem_behindBracket]

/-- Both times lie midway between two decimals, the seconds below zero. -/
def midway : Report where
  algorithm := .clamped
  inputSize := 3
  iterations := 7
  result := none
  elapsed := ⟨0, 0⟩
  seconds := ⟨0xBF98000000000000⟩
  perIteration := ⟨0x3FC0000000000000⟩
  startedAt := ⟨0, 0⟩

theorem value_seconds_midway : midway.seconds.value = -3 / 128 := by
  have hsign : midway.seconds.signBit = true := by decide
  have hexponent : midway.seconds.exponentField = 1017 := by decide
  have hfraction : midway.seconds.fraction = 2 ^ 51 := by decide
  simp only [Binary64.value, Binary64.ofFields, hsign, hexponent, hfraction]
  norm_num

theorem text_times_nearest_midway :
    midway.seconds.IsFinite ∧ midway.perIteration.IsFinite ∧
      midway.text =
        "-0.023438 seconds: kadane/clamped over 3 integers x 7 iterations (0.12 ns/iteration), " ++
          "result none" ∧
      ∃ first others scaled, words midway.text.toList = first :: others ∧
        Spells 6 true scaled first ∧ IsNearest (-3 / 128) (1 / 10 ^ 6) (signed true scaled) := by
  have hseconds : midway.seconds.IsFinite := by decide
  have hperIteration : midway.perIteration.IsFinite := by decide
  obtain ⟨⟨first, others, scaled, hwords, hspells, hnearest, -⟩, -⟩ :=
    text_times_nearest midway hseconds hperIteration
  rw [value_seconds_midway] at hnearest
  exact ⟨hseconds, hperIteration, by decide +kernel, first, others, scaled, hwords, hspells,
    hnearest⟩

end SegmentBench.Report
