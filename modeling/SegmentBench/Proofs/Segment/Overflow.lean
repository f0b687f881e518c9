import SegmentBench.Proofs.Segment.Range
import SegmentBench.Settings

/-!
# Input sizes and overflow

The greatest input size that settings may have is a bound on memory.  Far below it lies
the greatest number of values whose sums always fit a word: at every size above that
number, both scans overflow on some list.
-/

namespace SegmentBench

theorem Clamped.safe_iff_length_le (length : Nat) :
    (∀ values : List Int32, values.length = length → Clamped.Safe values) ↔
      length ≤ 2 ^ 32 + 2 := by
  constructor
  · intro hsafe
    exact Clamped.length_le_of_safe (hsafe _ List.length_replicate)
  · rintro hshort values rfl
    exact Clamped.safe_of_short hshort

theorem Classic.safe_iff_length_le (length : Nat) :
    (∀ values : List Int32, values.length = length → Classic.Safe values) ↔
      length ≤ 2 ^ 32 + 2 := by
  constructor
  · intro hsafe
    exact Classic.length_le_of_safe (hsafe _ List.length_replicate)
  · rintro hshort values rfl
    exact Classic.safe_of_short hshort

theorem Settings.le_greatestInputSize_iff (size : UInt64) :
    size ≤ Settings.greatestInputSize ↔ size.toNat ≤ 2 ^ 61 - 1 := by
  have hgreatest : Settings.greatestInputSize.toNat = 2 ^ 61 - 1 := by decide
  rw [UInt64.le_iff_toNat_le, hgreatest]

/-- Of the sizes that settings may have, only those up to `2 ^ 32 + 2` keep the scans
from overflowing on every list of that size. -/
theorem Settings.safe_iff_inputSize_le (settings : Settings) :
    ({ settings with inputPath := none }.validate = .ok () ↔
      settings.inputSize.toNat ≤ 2 ^ 61 - 1) ∧
    ((∀ values : List Int32, values.length = settings.inputSize.toNat →
      Clamped.Safe values) ↔ settings.inputSize.toNat ≤ 2 ^ 32 + 2) ∧
    ((∀ values : List Int32, values.length = settings.inputSize.toNat →
      Classic.Safe values) ↔ settings.inputSize.toNat ≤ 2 ^ 32 + 2) :=
  ⟨(Settings.validate_eq_ok_iff rfl).trans (Settings.le_greatestInputSize_iff _),
    Clamped.safe_iff_length_le _, Classic.safe_iff_length_le _⟩

theorem Settings.overflow_of_admitted :
    { Settings.default with inputSize := 4294967299 }.validate = .ok () ∧
      (List.replicate 4294967299 Int32.maxValue).length = 4294967299 ∧
      ¬ Clamped.Safe (List.replicate 4294967299 Int32.maxValue) ∧
      ¬ Classic.Safe (List.replicate 4294967299 Int32.maxValue) :=
  ⟨(Settings.validate_eq_ok_iff rfl).mpr (by decide), List.length_replicate,
    fun hsafe => absurd (Clamped.length_le_of_safe hsafe) (by decide),
    fun hsafe => absurd (Classic.length_le_of_safe hsafe) (by decide)⟩

end SegmentBench
