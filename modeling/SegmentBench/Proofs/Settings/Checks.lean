import Mathlib.Data.List.Infix
import SegmentBench.Proofs.Text.Lossy
import SegmentBench.Settings

/-!
# What the checks let pass

The checks look at a path as it is shown.  They decide about its bytes all the same,
for the lenient reader keeps every ASCII text of the bytes and adds none.
-/

namespace SegmentBench

/-! ## Paths -/

namespace Path

structure Usable (path : Path) : Prop where
  nonempty : path.bytes ≠ []
  nulFree : 0 ∉ path.bytes

inductive Unusable (path : Path) : String → Prop where
  | empty (empty : path.bytes = []) : Unusable path "Path cannot be empty"
  | nul (nul : 0 ∈ path.bytes) : Unusable path "Path contains null bytes"

theorem usable_or_unusable (path : Path) : path.Usable ∨ ∃ reason, path.Unusable reason := by
  by_cases hempty : path.bytes = []
  · exact .inr ⟨_, .empty hempty⟩
  by_cases hnul : 0 ∈ path.bytes
  · exact .inr ⟨_, .nul hnul⟩
  · exact .inl ⟨hempty, hnul⟩

def OpensPlaceholder (path : Path) : Prop := Utf8.encode ['$', '\x7b'] <:+: path.bytes

theorem nul_mem_shown_iff (path : Path) : '\x00' ∈ path.shown ↔ 0 ∈ path.bytes := by
  have hinfix := @Utf8.infix_decodeLossy_iff path.bytes [0] (by decide) (by simp)
  rwa [List.singleton_infix_iff, show Utf8.asciiText [0] = ['\x00'] from rfl,
    List.singleton_infix_iff] at hinfix

theorem placeholder_infix_shown_iff (path : Path) :
    ['$', '\x7b'] <:+: path.shown ↔ path.OpensPlaceholder :=
  @Utf8.infix_decodeLossy_iff path.bytes (Utf8.encode ['$', '\x7b']) (by decide) (by decide)

end Path

/-! ## Single checks -/

namespace Validation

variable {failure : Failure} {field : String} {path : Path}

theorem checkPath_of_usable (husable : path.Usable) : checkPath field path = .ok () := by
  have hnul : '\x00' ∉ path.shown := mt path.nul_mem_shown_iff.mp husable.nulFree
  simp [checkPath, husable.nonempty, hnul]

theorem checkPath_of_unusable {reason : String} (hunusable : path.Unusable reason) :
    checkPath field path = .error (.invalidValue field path.display reason) := by
  cases hunusable with
  | empty hempty => rw [checkPath, if_pos hempty]
  | nul hnul =>
      have hshown := path.nul_mem_shown_iff.mpr hnul
      rw [checkPath, if_neg (List.ne_nil_of_mem hnul), if_pos (List.contains_iff_mem.mpr hshown)]

theorem checkPath_eq_ok_iff : checkPath field path = .ok () ↔ path.Usable := by
  refine ⟨fun hok => ?_, checkPath_of_usable⟩
  obtain husable | ⟨reason, hunusable⟩ := path.usable_or_unusable
  · exact husable
  · rw [checkPath_of_unusable hunusable] at hok
    cases hok

theorem checkPath_eq_error_iff :
    checkPath field path = .error failure ↔
      ∃ reason, path.Unusable reason ∧ failure = .invalidValue field path.display reason := by
  constructor
  · intro herror
    obtain husable | ⟨reason, hunusable⟩ := path.usable_or_unusable
    · rw [checkPath_of_usable husable] at herror
      cases herror
    · rw [checkPath_of_unusable hunusable] at herror
      cases herror
      exact ⟨reason, hunusable, rfl⟩
  · rintro ⟨reason, hunusable, rfl⟩
    exact checkPath_of_unusable hunusable

theorem opensPlaceholder_iff (text : List Char) :
    opensPlaceholder text = true ↔ ['$', '\x7b'] <:+: text := by
  fun_induction opensPlaceholder text with
  | case1 rest => exact iff_of_true rfl ⟨[], rest, rfl⟩
  | case2 c rest hother ih =>
      rw [ih, List.infix_cons_iff, or_iff_right]
      rintro ⟨behind, heq⟩
      obtain ⟨rfl, rfl⟩ := List.cons.inj heq
      exact hother behind rfl rfl
  | case3 => simp

theorem checkNoPlaceholder_eq_ok_iff :
    checkNoPlaceholder field path.display = .ok () ↔ ¬path.OpensPlaceholder := by
  rw [← Path.placeholder_infix_shown_iff, ← opensPlaceholder_iff]
  simp [checkNoPlaceholder, Path.display]

theorem checkNoPlaceholder_eq_error_iff :
    checkNoPlaceholder field path.display = .error failure ↔
      path.OpensPlaceholder ∧
        failure = .invalidValue field path.display "Unresolved environment variable" := by
  rw [← Path.placeholder_infix_shown_iff, ← opensPlaceholder_iff]
  unfold checkNoPlaceholder Path.display
  rw [String.toList_ofList]
  split
  · rename_i hopens
    rw [Except.error.injEq, eq_comm, and_iff_right hopens]
  · rename_i hopens
    simp [hopens]

/-! ## One step after another -/

variable {α β : Type}

theorem bind_eq_ok_iff {first : Except Failure α} {next : α → Except Failure β} {result : β} :
    (first >>= next) = .ok result ↔ ∃ value, first = .ok value ∧ next value = .ok result := by
  cases first <;> simp [bind, Except.bind]

theorem bind_eq_error_iff {first : Except Failure α} {next : α → Except Failure β} :
    (first >>= next) = .error failure ↔
      first = .error failure ∨ ∃ value, first = .ok value ∧ next value = .error failure := by
  cases first <;> simp [bind, Except.bind]

theorem check_bind_eq_ok_iff {check : Except Failure Unit} {next : Unit → Except Failure α}
    {result : α} :
    (check >>= next) = .ok result ↔ check = .ok () ∧ next () = .ok result := by
  rw [bind_eq_ok_iff, Unique.exists_iff, PUnit.default_eq_unit]

theorem check_bind_eq_error_iff {check : Except Failure Unit}
    {next : Unit → Except Failure α} :
    (check >>= next) = .error failure ↔
      check = .error failure ∨ check = .ok () ∧ next () = .error failure := by
  rw [bind_eq_error_iff, Unique.exists_iff, PUnit.default_eq_unit]

end Validation

open Validation

/-! ## Configurations -/

namespace Config

variable {config : Config} {failure : Failure}

def Admitted (config : Config) : Prop :=
  ∀ input ∈ config.input, ∀ path ∈ input.path, path.Usable ∧ ¬path.OpensPlaceholder

/-- Why a configuration is refused, and the failure that tells it. -/
inductive Refused (config : Config) : Failure → Prop where
  | path {path : Path} {reason : String} (given : config.input = some ⟨some path⟩)
      (unusable : path.Unusable reason) :
      Refused config (.invalidValue "input.path" path.display reason)
  | placeholder {path : Path} (given : config.input = some ⟨some path⟩) (usable : path.Usable)
      (opens : path.OpensPlaceholder) :
      Refused config
        (.invalidValue "input.path" path.display "Unresolved environment variable")

theorem inputPath_eq_some_iff {path : Path} :
    config.inputPath = some path ↔ config.input = some ⟨some path⟩ := by
  rw [inputPath, Option.bind_eq_some_iff]
  constructor
  · rintro ⟨⟨_⟩, hinput, rfl⟩
    exact hinput
  · intro hinput
    exact ⟨_, hinput, rfl⟩

theorem admitted_iff :
    config.Admitted ↔ ∀ path ∈ config.inputPath, path.Usable ∧ ¬path.OpensPlaceholder := by
  unfold Admitted inputPath
  cases config.input <;> simp

theorem validate_eq_ok_iff : config.validate = .ok () ↔ config.Admitted := by
  rw [admitted_iff, validate]
  cases config.inputPath with
  | none => simp
  | some path =>
      simp [check_bind_eq_ok_iff, checkPath_eq_ok_iff, checkNoPlaceholder_eq_ok_iff]

theorem validate_eq_error_iff : config.validate = .error failure ↔ config.Refused failure := by
  unfold validate
  constructor
  · intro herror
    cases hpath : config.inputPath with
    | none => simp [hpath] at herror
    | some path =>
        simp only [hpath, check_bind_eq_error_iff, checkPath_eq_ok_iff, checkPath_eq_error_iff,
          checkNoPlaceholder_eq_error_iff] at herror
        obtain ⟨reason, hunusable, rfl⟩ | ⟨husable, hopens, rfl⟩ := herror
        · exact .path (inputPath_eq_some_iff.mp hpath) hunusable
        · exact .placeholder (inputPath_eq_some_iff.mp hpath) husable hopens
  · rintro (⟨hgiven, hunusable⟩ | ⟨hgiven, husable, hopens⟩)
    · simp only [inputPath_eq_some_iff.mpr hgiven, check_bind_eq_error_iff]
      exact .inl (checkPath_of_unusable hunusable)
    · simp only [inputPath_eq_some_iff.mpr hgiven, check_bind_eq_error_iff]
      exact .inr ⟨checkPath_of_usable husable,
        checkNoPlaceholder_eq_error_iff.mpr ⟨hopens, rfl⟩⟩

end Config

/-! ## Settings -/

namespace Settings

variable {settings : Settings} {failure : Failure}

structure Admitted (settings : Settings) : Prop where
  size : settings.inputSize ≤ greatestInputSize
  path : ∀ path ∈ settings.inputPath, path.Usable

inductive Refused (settings : Settings) : Failure → Prop where
  | size (great : greatestInputSize < settings.inputSize) :
      Refused settings (.invalidValue "input_size" (wordText settings.inputSize)
        "Value must be between 0 and 2305843009213693951")
  | path {path : Path} {reason : String} (size : settings.inputSize ≤ greatestInputSize)
      (given : settings.inputPath = some path) (unusable : path.Unusable reason) :
      Refused settings (.invalidValue "input" path.display reason)

theorem checkInputSize_eq_error_iff {size : UInt64} :
    checkInputSize size = .error failure ↔
      greatestInputSize < size ∧
        failure = .invalidValue "input_size" (wordText size)
          "Value must be between 0 and 2305843009213693951" := by
  have hreason : "Value must be between " ++ wordText 0 ++ " and " ++
      wordText greatestInputSize = "Value must be between 0 and 2305843009213693951" := by
    decide +kernel
  unfold checkInputSize Validation.checkRange
  rw [hreason]
  by_cases hgreat : greatestInputSize < size
  · simp [hgreat, eq_comm]
  · simp [hgreat]

theorem validate_eq_ok_iff_admitted : settings.validate = .ok () ↔ settings.Admitted := by
  unfold validate
  rw [check_bind_eq_ok_iff, checkInputSize_eq_ok_iff]
  constructor
  · rintro ⟨hsize, hok⟩
    refine ⟨hsize, ?_⟩
    intro path hpath
    rw [Option.mem_def.mp hpath] at hok
    exact checkPath_eq_ok_iff.mp hok
  · rintro ⟨hsize, husable⟩
    refine ⟨hsize, ?_⟩
    cases hpath : settings.inputPath with
    | none => rfl
    | some path => exact checkPath_of_usable (husable path hpath)

theorem validate_eq_error_iff :
    settings.validate = .error failure ↔ settings.Refused failure := by
  unfold validate
  rw [check_bind_eq_error_iff, checkInputSize_eq_ok_iff, checkInputSize_eq_error_iff]
  constructor
  · rintro (⟨hgreat, rfl⟩ | ⟨hsize, herror⟩)
    · exact .size hgreat
    · cases hpath : settings.inputPath with
      | none => simp [hpath] at herror
      | some path =>
          simp only [hpath] at herror
          obtain ⟨reason, hunusable, rfl⟩ := checkPath_eq_error_iff.mp herror
          exact .path hsize hpath hunusable
  · rintro (hgreat | ⟨hsize, hgiven, hunusable⟩)
    · exact .inl ⟨hgreat, rfl⟩
    · simp only [hgiven]
      exact .inr ⟨hsize, checkPath_of_unusable hunusable⟩

end Settings

end SegmentBench
