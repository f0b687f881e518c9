import Mathlib.Algebra.Order.Ring.Int
import Mathlib.Data.List.Induction
import Mathlib.Data.Set.Image
import Mathlib.Order.Bounds.Image

/-!
# Segment sums over the integers

Both scans in unbounded arithmetic, and what they compute.  After every prefix the
current sum of the classic scan is the greatest sum of a non-empty suffix and its best
sum the greatest sum of a non-empty segment; the clamped scan is the classic one
with every sum replaced by zero when it is negative.
-/

namespace SegmentBench

structure ExactScan where
  best : Int
  current : Int
  deriving DecidableEq, Repr

namespace ExactScan

/-- The segment that ends here goes on with `value`, or gives way to one with the sum
`restart`. -/
def extend (restart : Int) (scan : ExactScan) (value : Int) : ExactScan :=
  let current := max restart (scan.current + value)
  ⟨max scan.best current, current⟩

def run (restart : Int → Int) (scan : ExactScan) (values : List Int) : ExactScan :=
  values.foldl (fun scan value => scan.extend (restart value) value) scan

@[simp] theorem run_nil (restart : Int → Int) (scan : ExactScan) :
    run restart scan [] = scan := rfl

@[simp] theorem run_cons (restart : Int → Int) (scan : ExactScan) (value : Int)
    (values : List Int) :
    run restart scan (value :: values) =
      run restart (scan.extend (restart value) value) values := rfl

@[simp] theorem run_concat (restart : Int → Int) (scan : ExactScan) (values : List Int)
    (value : Int) :
    run restart scan (values ++ [value]) =
      (run restart scan values).extend (restart value) value := by
  simp [run]

end ExactScan

def Clamped.exactScan (values : List Int) : ExactScan :=
  ExactScan.run (fun _ => 0) ⟨0, 0⟩ values

def Classic.exactScan (first : Int) (rest : List Int) : ExactScan :=
  ExactScan.run id ⟨first, first⟩ rest

/-! ## Sums of segments -/

def segmentSums (values : List Int) : Set Int :=
  {sum | ∃ segment, segment <:+: values ∧ segment.sum = sum}

def nonemptySums (values : List Int) : Set Int :=
  {sum | ∃ segment, segment ≠ [] ∧ segment <:+: values ∧ segment.sum = sum}

def suffixSums (values : List Int) : Set Int :=
  {sum | ∃ suffix, suffix ≠ [] ∧ suffix <:+ values ∧ suffix.sum = sum}

@[simp] theorem nonemptySums_nil : nonemptySums [] = ∅ := by
  simp [nonemptySums]

@[simp] theorem suffixSums_nil : suffixSums [] = ∅ := by
  simp [suffixSums]

theorem segmentSums_eq_insert (values : List Int) :
    segmentSums values = insert 0 (nonemptySums values) := by
  ext sum
  constructor
  · rintro ⟨segment, hsegment, rfl⟩
    by_cases hempty : segment = []
    · exact .inl (by simp [hempty])
    · exact .inr ⟨segment, hempty, hsegment, rfl⟩
  · rintro (rfl | ⟨segment, -, hsegment, rfl⟩)
    · exact ⟨[], List.nil_infix, rfl⟩
    · exact ⟨segment, hsegment, rfl⟩

theorem suffixSums_concat (values : List Int) (value : Int) :
    suffixSums (values ++ [value]) = insert value ((· + value) '' suffixSums values) := by
  ext sum
  constructor
  · rintro ⟨suffix, hnonempty, hsuffix, rfl⟩
    obtain rfl | ⟨before, rfl, hbefore⟩ := List.suffix_concat_iff.mp hsuffix
    · exact absurd rfl hnonempty
    · by_cases hempty : before = []
      · exact .inl (by simp [hempty])
      · exact .inr ⟨before.sum, ⟨before, hempty, hbefore, rfl⟩, by simp⟩
  · rintro (rfl | ⟨_, ⟨before, -, hbefore, rfl⟩, rfl⟩)
    · exact ⟨[sum], by simp, List.suffix_append _ _, by simp⟩
    · exact ⟨before ++ [value], by simp,
        List.suffix_concat_iff.mpr (.inr ⟨before, rfl, hbefore⟩), by simp⟩

theorem nonemptySums_concat (values : List Int) (value : Int) :
    nonemptySums (values ++ [value]) =
      nonemptySums values ∪ suffixSums (values ++ [value]) := by
  ext sum
  constructor
  · rintro ⟨segment, hnonempty, hsegment, rfl⟩
    rcases List.infix_concat_iff.mp hsegment with hsuffix | hearlier
    · exact .inr ⟨segment, hnonempty, hsuffix, rfl⟩
    · exact .inl ⟨segment, hnonempty, hearlier, rfl⟩
  · rintro (⟨segment, hnonempty, hearlier, rfl⟩ | ⟨segment, hnonempty, hsuffix, rfl⟩)
    · exact ⟨segment, hnonempty, List.infix_concat_iff.mpr (.inr hearlier), rfl⟩
    · exact ⟨segment, hnonempty, hsuffix.isInfix, rfl⟩

/-! ## The classic scan -/

namespace Classic

/-- The invariant of the classic scan: both sums are the greatest of their kind in the
values seen so far. -/
structure Greatest (seen : List Int) (scan : ExactScan) : Prop where
  current : IsGreatest (suffixSums seen) scan.current
  best : IsGreatest (nonemptySums seen) scan.best

theorem greatest_start (first : Int) : Greatest [first] ⟨first, first⟩ := by
  have hsuffix : suffixSums [first] = {first} := by
    simpa using suffixSums_concat [] first
  have hsegment : nonemptySums [first] = {first} := by
    simpa [hsuffix] using nonemptySums_concat [] first
  exact ⟨hsuffix ▸ isGreatest_singleton, hsegment ▸ isGreatest_singleton⟩

theorem greatest_step {seen : List Int} {scan : ExactScan} (value : Int)
    (invariant : Greatest seen scan) :
    Greatest (seen ++ [value]) (scan.extend value value) := by
  have hmono : Monotone (· + value) := fun _ _ hle => Int.add_le_add_right hle value
  have hcurrent : IsGreatest (suffixSums (seen ++ [value]))
      (max value (scan.current + value)) := by
    rw [suffixSums_concat]
    exact (hmono.map_isGreatest invariant.current).insert value
  refine ⟨hcurrent, ?_⟩
  rw [nonemptySums_concat]
  exact invariant.best.union hcurrent

theorem greatest_exactScan (first : Int) (rest : List Int) :
    Greatest (first :: rest) (exactScan first rest) := by
  induction rest using List.reverseRecOn with
  | nil => exact greatest_start first
  | append_singleton rest value ih =>
      have hstep := greatest_step value ih
      simpa [exactScan] using hstep

end Classic

/-! ## The clamped scan -/

namespace Clamped

def clamp (scan : ExactScan) : ExactScan := ⟨max 0 scan.best, max 0 scan.current⟩

theorem clamp_extend (scan : ExactScan) (value : Int) :
    clamp (scan.extend value value) = (clamp scan).extend 0 value := by
  simp only [clamp, ExactScan.extend, ExactScan.mk.injEq]
  omega

theorem exactScan_cons (first : Int) (rest : List Int) :
    exactScan (first :: rest) = clamp (Classic.exactScan first rest) := by
  induction rest using List.reverseRecOn with
  | nil => simp [exactScan, ExactScan.extend, clamp, Classic.exactScan]
  | append_singleton rest value ih =>
      have hstep := clamp_extend (Classic.exactScan first rest) value
      rw [← ih] at hstep
      simpa [exactScan, Classic.exactScan] using hstep.symm

theorem greatest_exactScan (values : List Int) :
    IsGreatest (segmentSums values) (exactScan values).best := by
  rw [segmentSums_eq_insert]
  cases values with
  | nil => simp [exactScan]
  | cons first rest =>
      rw [exactScan_cons]
      exact (Classic.greatest_exactScan first rest).best.insert 0

end Clamped

end SegmentBench
