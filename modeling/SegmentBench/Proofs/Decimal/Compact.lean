import SegmentBench.Decimal.Layout
import SegmentBench.Proofs.Json.Grammar

/-!
# Shortest decimals as JSON numbers

The compact layout of a value is a number of JSON.  Zeros are written behind the digits only
where the significand is not zero, so no digit follows a zero in front, and there is a digit
on each side of every point.
-/

namespace SegmentBench

/-! ## Significands -/

namespace Shortest

open Binary64 (unitsOf)

theorem unitsOf_pos {magnitudeBits : Nat} (hpos : 0 < magnitudeBits) :
    0 < unitsOf magnitudeBits := by
  have hpower : 0 < Nat.pow 2 52 := Nat.pow_pos (by decide)
  unfold unitsOf
  split
  · rename_i hfield
    rwa [Nat.mod_eq_of_lt ((Nat.div_eq_zero_iff_lt hpower).mp hfield)]
  · exact Nat.mul_pos (by omega) (Nat.pow_pos (by decide))

theorem interval_low_pos {magnitudeBits : Nat} (hpos : 0 < magnitudeBits) :
    0 < (interval magnitudeBits).low := by
  have hunits := unitsOf_pos hpos
  simp only [interval]
  omega

theorem step_pos (exponent : Int) : 0 < (step exponent).2 := by
  unfold step
  split
  · exact Nat.one_pos
  · exact Nat.pow_pos (by decide)

theorem not_has_zero {range : Interval} {denominator : Nat} (hlow : 0 < range.low)
    (hdenominator : 0 < denominator) : range.has 0 denominator = false := by
  have hpos : 0 < range.low * denominator := Nat.mul_pos hlow hdenominator
  unfold Interval.has
  split
  · simp
    omega
  · simp

theorem le_roundDiv (tie : Tie) (numerator denominator : Nat) :
    numerator / denominator ≤ roundDiv tie numerator denominator := by
  unfold roundDiv
  dsimp only
  split
  · exact Nat.le_refl _
  · exact Nat.le_succ _
  · split
    · exact Nat.le_succ _
    · exact Nat.le_refl _

theorem significand_onGrid? {tie : Tie} {magnitudeBits : Nat} {exponent : Int} {found : Decimal}
    (hpos : 0 < magnitudeBits) (hfound : onGrid? tie magnitudeBits exponent = some found) :
    found.significand ≠ 0 := by
  have hzero := not_has_zero (interval_low_pos hpos) (step_pos exponent)
  simp only [onGrid?] at hfound
  generalize hlow : 2 * unitsOf magnitudeBits * (step exponent).2 / (step exponent).1 = low
    at hfound
  have hinside : (interval magnitudeBits).has (low * (step exponent).1) (step exponent).2 = true →
      low ≠ 0 := by
    rintro hinside rfl
    rw [Nat.zero_mul, hzero] at hinside
    cases hinside
  split at hfound
  · rename_i hboth
    cases hfound
    have hle := le_roundDiv tie (2 * unitsOf magnitudeBits * (step exponent).2) (step exponent).1
    have hne := hinside (Bool.and_eq_true_iff.mp hboth).1
    dsimp only
    omega
  split at hfound
  · rename_i hfirst
    cases hfound
    exact hinside hfirst
  split at hfound
  · cases hfound
    exact Nat.succ_ne_zero _
  · cases hfound

theorem significand_search {tie : Tie} {magnitudeBits : Nat} {whole : Int} {digits tries : Nat}
    {found : Decimal} (hpos : 0 < magnitudeBits)
    (hfound : search tie magnitudeBits whole digits tries = some found) :
    found.significand ≠ 0 := by
  induction tries generalizing digits with
  | zero => cases hfound
  | succ tries ih =>
      rw [search] at hfound
      split at hfound
      · rename_i honGrid
        cases hfound
        exact significand_onGrid? hpos honGrid
      · exact ih hfound

def IsProper (decimal : Decimal) : Prop := decimal.significand = 0 → decimal.exponent ≤ 0

theorem IsProper.strip {decimal : Decimal} (hproper : IsProper decimal) (places : Nat) :
    IsProper (strip decimal places) := by
  induction places generalizing decimal with
  | zero => exact hproper
  | succ places ih =>
      rw [Shortest.strip]
      split
      · rename_i hzeros
        refine ih fun hzero => ?_
        dsimp only at hzero
        omega
      · exact hproper

theorem isProper_decimal (tie : Tie) (magnitudeBits : Nat) :
    IsProper (decimal tie magnitudeBits) := by
  unfold decimal
  split
  · exact fun _ => Int.le_refl 0
  · rename_i hbits
    refine IsProper.strip ?_ 17
    cases hsearch : search tie magnitudeBits (wholeDigits (unitsOf magnitudeBits)) 1 17 with
    | none => exact fun _ => Int.le_refl 0
    | some found =>
        exact fun hzero => absurd hzero (significand_search (Nat.pos_of_ne_zero hbits) hsearch)

end Shortest

/-! ## Layouts -/

namespace Layout

open Document (IsNumeral isNumeral_digits)
open Json (SpellsNumber SpellsFraction SpellsExponent minus)
open Numeral (digits isDecimal_of_mem_zeros)

theorem exists_spellsNumber_point {whole fraction : List Char} (negative : Bool)
    (hwhole : IsNumeral whole) (hnonempty : fraction ≠ [])
    (hdecimal : ∀ c ∈ fraction, Numeral.isDecimal c = true) :
    ∃ value, SpellsNumber negative value (minus negative ++ (whole ++ '.' :: fraction)) := by
  have hnumber : SpellsNumber negative _ _ :=
    .parts hwhole (.present hnonempty hdecimal) .absent
  exact ⟨_, by simpa using hnumber⟩

variable {decimal : Decimal}

theorem isNumeral_append_zeros (hproper : Shortest.IsProper decimal) :
    IsNumeral (digits 10 decimal.significand ++ List.replicate decimal.exponent.toNat '0') where
  nonempty := by simp [Numeral.digits_ne_nil]
  decimal := by
    intro c hmem
    obtain hmem | hmem := List.mem_append.mp hmem
    · exact Numeral.isDecimal_of_mem_digits hmem
    · exact isDecimal_of_mem_zeros hmem
  short := by
    intro hhead
    rw [List.head?_append, Option.or_of_isSome (by simp [Numeral.digits_ne_nil])] at hhead
    have hzero : decimal.significand = 0 := of_not_not fun hne =>
      Numeral.head?_digits_ne_zero (Nat.pos_of_ne_zero hne) hhead
    have hexponent := hproper hzero
    have hnone : decimal.exponent.toNat = 0 := by omega
    simp [hnone, Numeral.length_digits_of_head? hhead]

theorem isNumeral_take_digits (value : Nat) {count : Nat} (hcount : 0 < count) :
    IsNumeral ((digits 10 value).take count) where
  nonempty := by simp [Numeral.digits_ne_nil, Nat.ne_of_gt hcount]
  decimal := fun _ hmem => Numeral.isDecimal_of_mem_digits (List.mem_of_mem_take hmem)
  short := by
    intro hhead
    rw [List.head?_take, if_neg (Nat.ne_of_gt hcount)] at hhead
    rw [List.length_take, Numeral.length_digits_of_head? hhead]
    omega

theorem exists_spellsNumber_positional (negative : Bool) (hproper : Shortest.IsProper decimal) :
    ∃ value, SpellsNumber negative value (minus negative ++
      (positional decimal ++ (if 0 ≤ decimal.exponent then ".0" else "")).toList) := by
  unfold positional
  dsimp only
  split
  · have hfraction : ∀ c ∈ ['0'], Numeral.isDecimal c = true := by decide
    have hpoint := exists_spellsNumber_point negative (isNumeral_append_zeros hproper)
      (List.cons_ne_nil _ _) hfraction
    simpa using hpoint
  generalize hcount : decimal.exponent + (digits 10 decimal.significand).length = count
  split
  · rename_i hexponent hwhole
    have hnonempty : (digits 10 decimal.significand).drop count.toNat ≠ [] := by
      rw [Ne, List.drop_eq_nil_iff]
      omega
    have hpoint := exists_spellsNumber_point negative
      (isNumeral_take_digits decimal.significand (show 0 < count.toNat by omega)) hnonempty
      fun c hmem => Numeral.isDecimal_of_mem_digits (List.mem_of_mem_drop hmem)
    simpa using hpoint
  · have hnonempty : List.replicate (-count).toNat '0' ++ digits 10 decimal.significand ≠ [] := by
      simp [Numeral.digits_ne_nil]
    have hdecimal : ∀ c ∈ List.replicate (-count).toNat '0' ++ digits 10 decimal.significand,
        Numeral.isDecimal c = true := by
      intro c hmem
      rcases List.mem_append.mp hmem with hmem | hmem
      · exact isDecimal_of_mem_zeros hmem
      · exact Numeral.isDecimal_of_mem_digits hmem
    have hpoint := exists_spellsNumber_point negative (isNumeral_digits 0) hnonempty hdecimal
    simpa [Numeral.digits_small, Numeral.digit] using hpoint

theorem exists_spellsExponent (power : Int) :
    ∃ exponent, SpellsExponent exponent
      ((if power < 0 then "e" else "e+") ++ Numeral.integer power).toList := by
  have hspelled (sign : List Char) (negative : Bool)
      (hsign : (sign, negative) ∈ Json.exponentSigns) :
      SpellsExponent _ ('e' :: sign ++ digits 10 power.natAbs) :=
    .present (.inl rfl) hsign (Numeral.digits_ne_nil _) fun _ => Numeral.isDecimal_of_mem_digits
  rw [String.toList_append, Numeral.toList_integer]
  split
  · exact ⟨_, hspelled ['-'] true (by decide)⟩
  · exact ⟨_, hspelled ['+'] false (by decide)⟩

theorem exists_spellsFraction (value : Nat) :
    ∃ fraction, SpellsFraction fraction
      (if (digits 10 value).length = 1 then [] else '.' :: (digits 10 value).drop 1) := by
  split
  · exact ⟨[], .absent⟩
  · rename_i hlength
    have hpos := List.length_pos_iff.mpr (Numeral.digits_ne_nil value)
    refine ⟨_, .present ?_ fun _ hmem =>
      Numeral.isDecimal_of_mem_digits (List.mem_of_mem_drop hmem)⟩
    rw [Ne, List.drop_eq_nil_iff]
    omega

theorem exists_spellsNumber_exponential (negative : Bool) (decimal : Decimal) :
    ∃ value, SpellsNumber negative value (minus negative ++ (exponential decimal).toList) := by
  obtain ⟨fraction, hfraction⟩ := exists_spellsFraction decimal.significand
  obtain ⟨exponent, hexponent⟩ := exists_spellsExponent
    (decimal.exponent + (digits 10 decimal.significand).length - 1)
  have hnumber : SpellsNumber negative _ _ :=
    .parts (isNumeral_take_digits decimal.significand Nat.one_pos) hfraction hexponent
  simp only [exponential, String.toList_append, String.toList_ofList, List.append_assoc]
    at hnumber ⊢
  exact ⟨_, hnumber⟩

theorem exists_spellsNumber_compactDecimal (negative : Bool) (hproper : Shortest.IsProper decimal) :
    ∃ value, SpellsNumber negative value (minus negative ++ (compactDecimal decimal).toList) := by
  unfold compactDecimal
  dsimp only
  split
  · exact exists_spellsNumber_positional negative hproper
  · exact exists_spellsNumber_exponential negative decimal

theorem toList_sign (x : Binary64) : (sign x).toList = minus x.isNegative := by
  unfold sign minus
  split <;> rfl

theorem exists_spellsNumber_compact? {x : Binary64} {text : String}
    (htext : compact? x = some text) :
    ∃ value, SpellsNumber x.isNegative value text.toList := by
  unfold compact? at htext
  split at htext
  · cases htext
    rw [String.toList_append, toList_sign]
    exact exists_spellsNumber_compactDecimal _ (Shortest.isProper_decimal _ _)
  · cases htext

end Layout

end SegmentBench
