import Mathlib.Algebra.Order.Round
import Mathlib.Data.Rat.Floor
import Mathlib.Tactic.FieldSimp
import Mathlib.Tactic.Linarith
import SegmentBench.Decimal.Rounding

/-!
# The nearest multiple

Rounding seen from the rationals: of all multiples of a unit the result is the nearest to
what was rounded, and the even one if another is equally near.  An error of half a unit at
most is enough for that.
-/

namespace SegmentBench

structure IsNearest (x unit : Rat) (count : Int) : Prop where
  nearest : ∀ other : Int, |x - count * unit| ≤ |x - other * unit|
  even : ∀ other : Int, other ≠ count → |x - other * unit| = |x - count * unit| → Even count

namespace IsNearest

variable {x unit : Rat} {count : Int}

theorem unit_le_add {other : Int} (hunit : 0 < unit) (hother : other ≠ count) :
    unit ≤ |x - count * unit| + |x - other * unit| := by
  have hapart : (1 : Rat) ≤ |(other - count : Rat)| := by
    exact_mod_cast Int.one_le_abs (sub_ne_zero.mpr hother)
  calc unit ≤ |(other - count : Rat)| * unit := le_mul_of_one_le_left hunit.le hapart
    _ = |(other - count : Rat) * unit| := by rw [abs_mul, abs_of_pos hunit]
    _ = |(x - count * unit) - (x - other * unit)| := by ring_nf
    _ ≤ |x - count * unit| + |x - other * unit| := abs_sub _ _

theorem of_abs_sub_le (hunit : 0 < unit) (herror : |x - count * unit| ≤ unit / 2)
    (htie : |x - count * unit| = unit / 2 → Even count) : IsNearest x unit count where
  nearest other := by
    by_cases hother : other = count
    · rw [hother]
    · -- two multiples are a unit apart, so the other is half a unit away at least
      have hapart := unit_le_add (x := x) hunit hother
      linarith
  even other hother hequal := by
    have hapart := unit_le_add (x := x) hunit hother
    exact htie (by linarith)

theorem abs_sub_le (hunit : 0 < unit) (hnearest : IsNearest x unit count) :
    |x - count * unit| ≤ unit / 2 := by
  have hround : x - round (x / unit) * unit = (x / unit - round (x / unit)) * unit := by
    field_simp
  calc |x - count * unit| ≤ |x - round (x / unit) * unit| := hnearest.nearest _
    _ = |x / unit - round (x / unit)| * unit := by rw [hround, abs_mul, abs_of_pos hunit]
    _ ≤ 1 / 2 * unit := mul_le_mul_of_nonneg_right (abs_sub_round _) hunit.le
    _ = unit / 2 := by ring

theorem abs_neg_sub (x unit : Rat) (other : Int) :
    |-x - other * unit| = |x - (-other : Int) * unit| := by
  rw [← abs_neg]
  push_cast
  ring_nf

theorem neg (hnearest : IsNearest x unit count) : IsNearest (-x) unit (-count) where
  nearest other := by
    rw [abs_neg_sub, abs_neg_sub, neg_neg]
    exact hnearest.nearest (-other)
  even other hother hequal := by
    rw [abs_neg_sub, abs_neg_sub, neg_neg] at hequal
    have hmirror : -other ≠ count := fun hcount => hother (by rw [← hcount, neg_neg])
    exact (hnearest.even (-other) hmirror hequal).neg

end IsNearest

/-! ## Rounding a quotient -/

variable {denominator : Nat}

theorem roundDiv_toEven (numerator denominator : Nat) :
    (roundDiv .toEven numerator denominator = numerator / denominator ∧
        2 * (numerator % denominator) ≤ denominator ∧
        (2 * (numerator % denominator) = denominator → Even (numerator / denominator))) ∨
      (roundDiv .toEven numerator denominator = numerator / denominator + 1 ∧
        denominator ≤ 2 * (numerator % denominator) ∧
        (2 * (numerator % denominator) = denominator → Even (numerator / denominator + 1))) := by
  simp only [roundDiv]
  cases hcompare : compare (2 * (numerator % denominator)) denominator with
  | lt =>
      have hless := compare_lt_iff_lt.mp hcompare
      exact .inl ⟨rfl, hless.le, fun htie => absurd htie hless.ne⟩
  | gt =>
      have hgreater := compare_gt_iff_gt.mp hcompare
      exact .inr ⟨rfl, hgreater.le, fun htie => absurd htie hgreater.ne'⟩
  | eq =>
      have htie := compare_eq_iff_eq.mp hcompare
      cases hraises : Tie.toEven.raises (numerator / denominator) with
      | false =>
          have heven : numerator / denominator % 2 ≠ 1 := by simpa [Tie.raises] using hraises
          exact .inl ⟨rfl, htie.le, fun _ => Nat.even_iff.mpr (by omega)⟩
      | true =>
          have hodd : numerator / denominator % 2 = 1 := by simpa [Tie.raises] using hraises
          exact .inr ⟨rfl, htie.ge, fun _ => Nat.even_iff.mpr (by omega)⟩

theorem two_mul_abs_sub_roundDiv (numerator : Nat) (hdenominator : 0 < denominator) :
    2 * |(numerator : Int) - roundDiv .toEven numerator denominator * denominator| ≤ denominator ∧
      (2 * |(numerator : Int) - roundDiv .toEven numerator denominator * denominator| =
          denominator → Even (roundDiv .toEven numerator denominator)) := by
  have hrest := Nat.mod_lt numerator hdenominator
  have hdivision : (numerator : Int) =
      (numerator / denominator : Nat) * denominator + (numerator % denominator : Nat) := by
    exact_mod_cast (Nat.div_add_mod' numerator denominator).symm
  rcases roundDiv_toEven numerator denominator with ⟨hround, hle, heven⟩ | ⟨hround, hle, heven⟩
  · have herror : |(numerator : Int) - (numerator / denominator : Nat) * denominator| =
        (numerator % denominator : Nat) := by
      rw [hdivision, add_sub_cancel_left, Nat.abs_cast]
    rw [hround, herror]
    exact ⟨by omega, fun htie => heven (by omega)⟩
  · have herror : |(numerator : Int) - (numerator / denominator + 1 : Nat) * denominator| =
        denominator - (numerator % denominator : Nat) := by
      rw [abs_sub_comm, ← abs_of_nonneg (a := (denominator : Int) - _) (by omega)]
      congr 1
      rw [hdivision]
      push_cast
      ring
    rw [hround, herror]
    exact ⟨by omega, fun htie => heven (by omega)⟩

theorem isNearest_roundDiv (numerator : Nat) (hdenominator : 0 < denominator) {unit : Rat}
    (hunit : 0 < unit) :
    IsNearest (numerator / denominator * unit) unit (roundDiv .toEven numerator denominator) := by
  have hpos : (0 : Rat) < denominator := Nat.cast_pos.mpr hdenominator
  have hpart : 0 < unit / denominator := div_pos hunit hpos
  obtain ⟨hle, htie⟩ := two_mul_abs_sub_roundDiv numerator hdenominator
  generalize roundDiv .toEven numerator denominator = rounded at hle htie ⊢
  have hsplit : numerator / denominator * unit - (rounded : Int) * unit =
      (numerator - rounded * denominator : Int) * (unit / denominator) := by
    push_cast
    field_simp
  have herror : |numerator / denominator * unit - (rounded : Int) * unit| =
      (|numerator - rounded * denominator| : Int) * (unit / denominator) := by
    rw [hsplit, abs_mul, abs_of_pos hpart, ← Int.cast_abs]
  generalize |(numerator : Int) - rounded * denominator| = error at hle htie herror
  have hhalf : unit / 2 = denominator / 2 * (unit / denominator) := by
    field_simp
  refine .of_abs_sub_le hunit ?_ fun hmidway => ?_
  · have hle : (error : Rat) ≤ denominator / 2 := by
      rw [le_div_iff₀' two_pos]
      exact_mod_cast hle
    rw [herror, hhalf]
    exact mul_le_mul_of_nonneg_right hle hpart.le
  · rw [herror, hhalf, mul_left_inj' hpart.ne', eq_div_iff two_ne_zero, mul_comm] at hmidway
    exact_mod_cast htie (by exact_mod_cast hmidway)

end SegmentBench
