import SegmentBench.Proofs.Segment.Exact
import SegmentBench.Segment

/-!
# The range of the scans

A scan adds one value to its current sum at every step.  As long as all these sums fit
a 64-bit word, the scan over words is the scan over the integers, and they fit whenever
the list has at most `2 ^ 32 + 2` values.  At every greater length, the list that
repeats the greatest value overflows.
-/

namespace SegmentBench

/-! ## Words -/

def IsWord (sum : Int) : Prop := -2 ^ 63 ≤ sum ∧ sum < 2 ^ 63

instance (sum : Int) : Decidable (IsWord sum) := inferInstanceAs (Decidable (_ ∧ _))

theorem toInt_add_toInt64 {sum : Int64} {value : Int32}
    (hword : IsWord (sum.toInt + value.toInt)) :
    (sum + value.toInt64).toInt = sum.toInt + value.toInt := by
  obtain ⟨hlow, hhigh⟩ := hword
  rw [Int64.toInt_add, Int32.toInt_toInt64]
  exact Int.bmod_eq_of_le_mul_two (by omega) (by omega)

theorem toInt_ite_lt (a b : Int64) :
    (if a < b then b else a).toInt = max a.toInt b.toInt := by
  split
  · rename_i hlt
    exact (Int.max_eq_right (Int.le_of_lt (Int64.lt_iff_toInt_lt.mp hlt))).symm
  · rename_i hle
    exact (Int.max_eq_left (Int.not_lt.mp (mt Int64.lt_iff_toInt_lt.mpr hle))).symm

/-! ## Scans without overflow -/

/-- Every sum that a scan forms from `scan` on fits a word. -/
def NoOverflow (step : Scan → Int32 → Scan) : Scan → List Int32 → Prop
  | _, [] => True
  | scan, value :: rest =>
      IsWord (scan.current.toInt + value.toInt) ∧ NoOverflow step (step scan value) rest

def Clamped.Safe (values : List Int32) : Prop := NoOverflow step start values

def Classic.Safe : List Int32 → Prop
  | [] => True
  | first :: rest => NoOverflow step (start first) rest

def Scan.exact (scan : Scan) : ExactScan := ⟨scan.best.toInt, scan.current.toInt⟩

/-- A step over words is the step over the integers unless its sum overflows, and what
it restarts at is no greater in size than a value. -/
structure Refines (step : Scan → Int32 → Scan) (restart : Int → Int) : Prop where
  exact : ∀ (scan : Scan) (value : Int32), IsWord (scan.current.toInt + value.toInt) →
    (step scan value).exact = scan.exact.extend (restart value.toInt) value.toInt
  least : ∀ value : Int32, -2 ^ 31 ≤ restart value.toInt
  greatest : ∀ value : Int32, restart value.toInt < 2 ^ 31

theorem Clamped.refines : Refines step (fun _ => 0) where
  exact scan value hword := by
    have hcurrent : (if scan.current + value.toInt64 < 0 then 0
        else scan.current + value.toInt64).toInt =
        max 0 (scan.current.toInt + value.toInt) := by
      rw [toInt_ite_lt, toInt_add_toInt64 hword, Int.max_comm]
      rfl
    simp only [step, ExactScan.extend, Scan.exact, toInt_ite_lt, hcurrent]
  least _ := by decide
  greatest _ := by decide

theorem Classic.refines : Refines step id where
  exact scan value hword := by
    simp only [step, ExactScan.extend, Scan.exact, toInt_ite_lt, toInt_add_toInt64 hword,
      Int32.toInt_toInt64, id]
  least value := value.le_toInt
  greatest value := value.toInt_lt

namespace Refines

variable {step : Scan → Int32 → Scan} {restart : Int → Int}

theorem current_step (hrefines : Refines step restart) {scan : Scan} {value : Int32}
    (hword : IsWord (scan.current.toInt + value.toInt)) :
    (step scan value).current.toInt =
      max (restart value.toInt) (scan.current.toInt + value.toInt) :=
  congrArg ExactScan.current (hrefines.exact scan value hword)

theorem exact_foldl (hrefines : Refines step restart) {scan : Scan}
    {values : List Int32} (hsafe : NoOverflow step scan values) :
    (values.foldl step scan).exact =
      scan.exact.run restart (values.map Int32.toInt) := by
  induction values generalizing scan with
  | nil => rfl
  | cons value rest ih =>
      obtain ⟨hword, hrest⟩ := hsafe
      rw [List.foldl_cons, ih hrest, hrefines.exact scan value hword]
      rfl

end Refines

theorem Clamped.exact_scan {values : List Int32} (hsafe : Clamped.Safe values) :
    (Clamped.scan values).exact = Clamped.exactScan (values.map Int32.toInt) :=
  Clamped.refines.exact_foldl hsafe

theorem Classic.exact_scan {first : Int32} {rest : List Int32}
    (hsafe : Classic.Safe (first :: rest)) :
    (Classic.scan first rest).exact =
      Classic.exactScan first.toInt (rest.map Int32.toInt) := by
  have hrun := Classic.refines.exact_foldl hsafe
  simpa [Scan.exact, Classic.start, Classic.scan, Classic.exactScan] using hrun

/-! ## Short lists -/

/-- The invariant of a scan that has seen `seen` values: its current sum is not below
the least value and not above `seen` times the greatest. -/
def Scan.Within (seen : Nat) (scan : Scan) : Prop :=
  -2 ^ 31 ≤ scan.current.toInt ∧ scan.current.toInt ≤ seen * (2 ^ 31 - 1)

theorem Scan.Within.isWord {seen : Nat} {scan : Scan} (hwithin : scan.Within seen)
    (hshort : seen < 2 ^ 32 + 2) (value : Int32) :
    IsWord (scan.current.toInt + value.toInt) := by
  obtain ⟨hlow, hhigh⟩ := hwithin
  have hleast := value.le_toInt
  have hgreatest := value.toInt_lt
  constructor <;> omega

namespace Refines

variable {step : Scan → Int32 → Scan} {restart : Int → Int}

theorem within_step (hrefines : Refines step restart) {seen : Nat} {scan : Scan}
    (hwithin : scan.Within seen) (hshort : seen < 2 ^ 32 + 2) (value : Int32) :
    (step scan value).Within (seen + 1) := by
  have hcurrent := hrefines.current_step (hwithin.isWord hshort value)
  have hleast := hrefines.least value
  have hgreatest := hrefines.greatest value
  have hvalue := value.toInt_lt
  simp only [Scan.Within, hcurrent] at hwithin ⊢
  omega

theorem noOverflow_of_short (hrefines : Refines step restart) {seen : Nat} {scan : Scan}
    {values : List Int32} (hwithin : scan.Within seen)
    (hshort : seen + values.length ≤ 2 ^ 32 + 2) : NoOverflow step scan values := by
  induction values generalizing seen scan with
  | nil => trivial
  | cons value rest ih =>
      simp only [List.length_cons] at hshort
      have hseen : seen < 2 ^ 32 + 2 := by omega
      exact ⟨hwithin.isWord hseen value,
        ih (hrefines.within_step hwithin hseen value) (by omega)⟩

end Refines

theorem Clamped.safe_of_short {values : List Int32}
    (hshort : values.length ≤ 2 ^ 32 + 2) : Clamped.Safe values :=
  have hstart : Clamped.start.Within 0 := by simp [Scan.Within, Clamped.start]
  Clamped.refines.noOverflow_of_short hstart (by omega)

theorem Classic.safe_of_short {values : List Int32}
    (hshort : values.length ≤ 2 ^ 32 + 2) : Classic.Safe values := by
  cases values with
  | nil => trivial
  | cons first rest =>
      have hleast := first.le_toInt
      have hgreatest := first.toInt_lt
      rw [List.length_cons] at hshort
      have hstart : (Classic.start first).Within 1 := by
        simp only [Scan.Within, Classic.start, Int32.toInt_toInt64]
        omega
      exact Classic.refines.noOverflow_of_short hstart (by omega)

/-! ## Long lists -/

theorem Refines.sum_lt_of_noOverflow {step : Scan → Int32 → Scan} {restart : Int → Int}
    (hrefines : Refines step restart) {count : Nat} {scan : Scan}
    (hcurrent : 0 ≤ scan.current.toInt)
    (hsafe : NoOverflow step scan (List.replicate count Int32.maxValue)) :
    scan.current.toInt + count * (2 ^ 31 - 1) < 2 ^ 63 := by
  induction count generalizing scan with
  | zero =>
      have hword := scan.current.toInt_lt
      omega
  | succ count ih =>
      obtain ⟨hword, hrest⟩ := List.replicate_succ ▸ hsafe
      have hstep := hrefines.current_step hword
      have hgreatest := hrefines.greatest Int32.maxValue
      rw [Int32.toInt_maxValue] at hstep hgreatest
      have hbound := ih (by omega) hrest
      omega

theorem Clamped.length_le_of_safe {count : Nat}
    (hsafe : Clamped.Safe (List.replicate count Int32.maxValue)) :
    count ≤ 2 ^ 32 + 2 := by
  have hbound := Clamped.refines.sum_lt_of_noOverflow (by decide) hsafe
  simp only [Clamped.start, Int64.toInt_zero] at hbound
  omega

theorem Classic.length_le_of_safe {count : Nat}
    (hsafe : Classic.Safe (List.replicate count Int32.maxValue)) :
    count ≤ 2 ^ 32 + 2 := by
  cases count with
  | zero => omega
  | succ count =>
      have hbound := Classic.refines.sum_lt_of_noOverflow (by decide) hsafe
      simp only [Classic.start, Int32.toInt_toInt64, Int32.toInt_maxValue] at hbound
      omega

end SegmentBench
