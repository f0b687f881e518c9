import SegmentBench.Proofs.Segment.Greatest

/-!
# The two scans side by side

Behind a sum below zero one scan drops to zero, while the other starts afresh at the next
value.  All the same the clamped scan is, after every value, the classic one with zero in place
of each negative sum.  Over words this is so as long as no sum overflows, and both scans
overflow on the same lists.
-/

namespace SegmentBench

/-! ## Overflow -/

theorem noOverflow_of_prefix {step : Scan → Int32 → Scan} {scan : Scan}
    {front values : List Int32} (hfront : front <+: values)
    (hsafe : NoOverflow step scan values) : NoOverflow step scan front := by
  obtain ⟨behind, rfl⟩ := hfront
  induction front generalizing scan with
  | nil => trivial
  | cons value front ih => exact ⟨hsafe.1, ih hsafe.2⟩

theorem Classic.Safe.of_prefix {front values : List Int32} (hsafe : Classic.Safe values)
    (hfront : front <+: values) : Classic.Safe front := by
  cases front with
  | nil => trivial
  | cons first rest =>
      obtain ⟨behind, rfl⟩ := hfront
      exact noOverflow_of_prefix (List.prefix_append rest behind) hsafe

theorem Clamped.isWord_start (first : Int32) :
    IsWord (Clamped.start.current.toInt + first.toInt) := by
  have hleast := first.le_toInt
  have hgreatest := first.toInt_lt
  simp only [IsWord, Clamped.start, Int64.toInt_zero]
  omega

/-- The invariant of two scans over the same words: the next sums are equal, or both are too
small to overflow. -/
structure Alongside (clamped classic : Scan) : Prop where
  current : clamped.current.toInt = max 0 classic.current.toInt
  least : -2 ^ 31 ≤ classic.current.toInt

namespace Alongside

variable {clamped classic : Scan}

theorem start (first : Int32) :
    Alongside (Clamped.step Clamped.start first) (Classic.start first) := by
  have hcurrent := Clamped.refines.current_step (Clamped.isWord_start first)
  refine ⟨?_, ?_⟩
  · rw [hcurrent]
    simp [Clamped.start, Classic.start]
  · simpa [Classic.start] using first.le_toInt

theorem isWord_iff (halong : Alongside clamped classic) (value : Int32) :
    IsWord (clamped.current.toInt + value.toInt) ↔
      IsWord (classic.current.toInt + value.toInt) := by
  have hcurrent := halong.current
  have hbelow := halong.least
  have hleast := value.le_toInt
  have hgreatest := value.toInt_lt
  simp only [IsWord]
  omega

theorem step (halong : Alongside clamped classic) {value : Int32}
    (hword : IsWord (classic.current.toInt + value.toInt)) :
    Alongside (Clamped.step clamped value) (Classic.step classic value) := by
  have hcurrent := halong.current
  have hleast := value.le_toInt
  have hclassic := Classic.refines.current_step hword
  have hclamped := Clamped.refines.current_step ((halong.isWord_iff value).mpr hword)
  rw [id] at hclassic
  refine ⟨?_, ?_⟩
  · rw [hclamped, hclassic]
    omega
  · rw [hclassic]
    omega

theorem noOverflow_iff (halong : Alongside clamped classic) (values : List Int32) :
    NoOverflow Clamped.step clamped values ↔ NoOverflow Classic.step classic values := by
  induction values generalizing clamped classic with
  | nil => exact iff_of_true trivial trivial
  | cons value rest ih =>
      constructor
      · rintro ⟨hword, hrest⟩
        have hclassic := (halong.isWord_iff value).mp hword
        exact ⟨hclassic, (ih (halong.step hclassic)).mp hrest⟩
      · rintro ⟨hword, hrest⟩
        exact ⟨(halong.isWord_iff value).mpr hword, (ih (halong.step hword)).mpr hrest⟩

end Alongside

theorem Clamped.safe_iff (values : List Int32) : Clamped.Safe values ↔ Classic.Safe values := by
  cases values with
  | nil => exact iff_of_true trivial trivial
  | cons first rest =>
      have hrest := (Alongside.start first).noOverflow_iff rest
      constructor
      · intro hsafe
        exact hrest.mp hsafe.2
      · intro hsafe
        exact ⟨isWord_start first, hrest.mpr hsafe⟩

/-! ## Lockstep -/

/-- Each sum of the clamped scan is that of the classic one, or zero where that is negative. -/
structure Lockstep (clamped classic : ExactScan) : Prop where
  current : clamped.current = max 0 classic.current
  best : clamped.best = max 0 classic.best

theorem lockstep_clamp (classic : ExactScan) : Lockstep (Clamped.clamp classic) classic :=
  ⟨rfl, rfl⟩

def Clamped.exactSum (values : List Int) : Int := (exactScan values).best

def Classic.exactSum? : List Int → Option Int
  | [] => none
  | first :: rest => some (exactScan first rest).best

namespace Clamped

theorem lockstep_exactScan (first : Int) (rest : List Int) :
    Lockstep (exactScan (first :: rest)) (Classic.exactScan first rest) := by
  rw [exactScan_cons]
  exact lockstep_clamp _

theorem exactSum_eq (values : List Int) :
    exactSum values = max 0 ((Classic.exactSum? values).getD 0) := by
  cases values with
  | nil => rfl
  | cons first rest => exact (lockstep_exactScan first rest).best

theorem lockstep_scan {first : Int32} {rest : List Int32}
    (hsafe : Classic.Safe (first :: rest)) :
    Lockstep (scan (first :: rest)).exact (Classic.scan first rest).exact := by
  rw [exact_scan ((safe_iff _).mpr hsafe), Classic.exact_scan hsafe]
  exact lockstep_exactScan _ _

theorem toInt_sum_eq {values : List Int32} (hsafe : Classic.Safe values) :
    (sum values).toInt = max 0 (((Classic.sum? values).map Int64.toInt).getD 0) := by
  cases values with
  | nil => rfl
  | cons first rest => exact (lockstep_scan hsafe).best

/-- The scans are in lockstep after every non-empty front of a list, so the clamped sum is the
classic one where that is positive, and zero otherwise.  The scans over words are so too, unless
they overflow, which one does exactly if the other does. -/
theorem scan_lockstep (values : List Int32) :
    (∀ first rest, first :: rest <+: values →
      Lockstep (exactScan ((first :: rest).map Int32.toInt))
        (Classic.exactScan first.toInt (rest.map Int32.toInt))) ∧
    exactSum (values.map Int32.toInt) =
      max 0 ((Classic.exactSum? (values.map Int32.toInt)).getD 0) ∧
    (Safe values ↔ Classic.Safe values) ∧
    (Classic.Safe values →
      (∀ first rest, first :: rest <+: values →
        Lockstep (scan (first :: rest)).exact (Classic.scan first rest).exact) ∧
      (sum values).toInt = max 0 (((Classic.sum? values).map Int64.toInt).getD 0)) := by
  refine ⟨?_, exactSum_eq _, safe_iff values, ?_⟩
  · intro first rest _
    exact lockstep_exactScan _ _
  · intro hsafe
    refine ⟨?_, toInt_sum_eq hsafe⟩
    intro first rest hfront
    exact lockstep_scan (hsafe.of_prefix hfront)

theorem scan_lockstep_dip :
    [-5, 7, -9] <+: ([-5, 7, -9, -2147483648, 2147483647] : List Int32) ∧
      Classic.Safe [-5, 7, -9, -2147483648, 2147483647] ∧
      (scan [-5, 7, -9]).exact = ⟨7, 0⟩ ∧ (Classic.scan (-5) [7, -9]).exact = ⟨7, -2⟩ ∧
      Lockstep (scan [-5, 7, -9]).exact (Classic.scan (-5) [7, -9]).exact ∧
      Lockstep (exactScan [-5, 7, -9]) (Classic.exactScan (-5) [7, -9]) ∧
      (sum [-5, 7, -9, -2147483648, 2147483647]).toInt = 2147483647 := by
  have hfront : [-5, 7, -9] <+: ([-5, 7, -9, -2147483648, 2147483647] : List Int32) :=
    ⟨[-2147483648, 2147483647], rfl⟩
  have hsafe : Classic.Safe [-5, 7, -9, -2147483648, 2147483647] :=
    Classic.safe_of_short (by decide)
  obtain ⟨hexact, -, -, hwords⟩ := scan_lockstep [-5, 7, -9, -2147483648, 2147483647]
  obtain ⟨hscans, hsum⟩ := hwords hsafe
  have hlockstep := hexact _ _ hfront
  refine ⟨hfront, hsafe, by decide, by decide, hscans _ _ hfront, hlockstep, ?_⟩
  rw [hsum]
  decide

end Clamped

end SegmentBench
