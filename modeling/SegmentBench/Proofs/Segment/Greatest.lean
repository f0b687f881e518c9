import SegmentBench.Proofs.Segment.Range

/-!
# Greatest segment sums

The sums that the scans over words return are the greatest over the integers, for every
list that is short enough for the words.
-/

namespace SegmentBench

theorem Clamped.toInt_sum {values : List Int32} (hsafe : Clamped.Safe values) :
    (Clamped.sum values).toInt = (Clamped.exactScan (values.map Int32.toInt)).best :=
  congrArg ExactScan.best (Clamped.exact_scan hsafe)

/-- The clamped sum is the greatest sum of a segment, the empty one included, and the
scan reaches it without overflow. -/
theorem Clamped.sum_isGreatest (values : List Int32)
    (hshort : values.length ≤ 2 ^ 32 + 2) :
    IsGreatest (segmentSums (values.map Int32.toInt)) (Clamped.sum values).toInt ∧
      Clamped.Safe values := by
  have hsafe := Clamped.safe_of_short hshort
  refine ⟨?_, hsafe⟩
  rw [Clamped.toInt_sum hsafe]
  exact Clamped.greatest_exactScan _

theorem Clamped.sum_isGreatest_dip :
    ([-3, 2147483647, 2147483647, -2147483648, 5, -1] : List Int32).length ≤ 2 ^ 32 + 2 ∧
      IsGreatest
        (segmentSums [-3, 2147483647, 2147483647, -2147483648, 5, -1]) 4294967294 ∧
      Clamped.Safe [-3, 2147483647, 2147483647, -2147483648, 5, -1] :=
  ⟨by decide,
    Clamped.sum_isGreatest [-3, 2147483647, 2147483647, -2147483648, 5, -1] (by decide)⟩

theorem Classic.isGreatest_of_sum? {values : List Int32} {sum : Int64}
    (hsafe : Classic.Safe values) (hsum : Classic.sum? values = some sum) :
    IsGreatest (nonemptySums (values.map Int32.toInt)) sum.toInt := by
  cases values with
  | nil => cases hsum
  | cons first rest =>
      cases hsum
      have hbest : (Classic.scan first rest).best.toInt =
          (Classic.exactScan first.toInt (rest.map Int32.toInt)).best :=
        congrArg ExactScan.best (Classic.exact_scan hsafe)
      rw [hbest]
      exact (Classic.greatest_exactScan _ _).best

/-- Only the empty list has no classic sum.  Otherwise it is the greatest sum of a non-empty
segment, and the scan reaches it without overflow. -/
theorem Classic.sum?_isGreatest (values : List Int32)
    (hshort : values.length ≤ 2 ^ 32 + 2) :
    (Classic.sum? values = none ↔ values = []) ∧
      (values ≠ [] → ∃ sum, Classic.sum? values = some sum ∧
        IsGreatest (nonemptySums (values.map Int32.toInt)) sum.toInt) ∧
      Classic.Safe values := by
  have hsafe := Classic.safe_of_short hshort
  cases values with
  | nil => exact ⟨iff_of_true rfl rfl, fun hnonempty => absurd rfl hnonempty, hsafe⟩
  | cons first rest =>
      have hsome : Classic.sum? (first :: rest) = some (Classic.scan first rest).best := rfl
      refine ⟨?_, fun _ => ⟨_, hsome, Classic.isGreatest_of_sum? hsafe hsome⟩, hsafe⟩
      rw [hsome]
      exact iff_of_false (Option.some_ne_none _) (List.cons_ne_nil _ _)

theorem Classic.sum?_isGreatest_negative :
    ([-5, -2147483648, -3, -4] : List Int32).length ≤ 2 ^ 32 + 2 ∧
      Classic.sum? [-5, -2147483648, -3, -4] = some (-3) ∧
      IsGreatest (nonemptySums [-5, -2147483648, -3, -4]) (-3) ∧
      Classic.Safe [-5, -2147483648, -3, -4] := by
  obtain ⟨-, hgreatest, hsafe⟩ :=
    Classic.sum?_isGreatest [-5, -2147483648, -3, -4] (by decide)
  obtain ⟨sum, hsum, hgreatest⟩ := hgreatest (by decide)
  have hvalue : sum = -3 := Option.some.inj (hsum.symm.trans (by decide))
  rw [hvalue] at hsum hgreatest
  exact ⟨by decide, hsum, hgreatest, hsafe⟩

/-! ## Either sum -/

namespace Algorithm

def sums : Algorithm → List Int → Set Int
  | .clamped => segmentSums
  | .classic => nonemptySums

theorem isGreatest_of_sum? {algorithm : Algorithm} {values : List Int32} {sum : Int64}
    (hshort : values.length ≤ 2 ^ 32 + 2) (hsum : algorithm.sum? values = some sum) :
    IsGreatest (algorithm.sums (values.map Int32.toInt)) sum.toInt := by
  cases algorithm with
  | clamped =>
      cases hsum
      rw [Clamped.toInt_sum (Clamped.safe_of_short hshort)]
      exact Clamped.greatest_exactScan _
  | classic => exact Classic.isGreatest_of_sum? (Classic.safe_of_short hshort) hsum

theorem sum?_eq_none_iff {algorithm : Algorithm} {values : List Int32} :
    algorithm.sum? values = none ↔ algorithm = .classic ∧ values = [] := by
  cases algorithm <;> cases values <;> simp [sum?, Classic.sum?]

end Algorithm

end SegmentBench
