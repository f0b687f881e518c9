import SegmentBench.Program
import SegmentBench.Proofs.Settings.Checks

/-!
# Opening the input

A path with a zero byte cannot be opened.  No path of settings that were resolved has
one: the check sees each zero byte of a path, and no other, in what is shown of it.
-/

namespace SegmentBench

/-! ## What opening a path gives -/

namespace Files

/-- Opening finds fault with the zero bytes of a path, and with those of no other. -/
def RefusesNul (files : Path → Except IoFault Entry) : Prop :=
  ∀ path, files path = .error .nulInName ↔ 0 ∈ path.bytes

theorem walk_ne_nulInName (tree : Tree) (place : Place) (names : List Bytes) :
    walk tree place names ≠ .error .nulInName := by
  fun_induction walk tree place names <;> simp_all

theorem refusesNul_find (tree : Tree) : RefusesNul tree.find := by
  intro path
  by_cases hnul : 0 ∈ path.bytes
  · exact iff_of_true (if_pos (List.contains_iff_mem.mpr hnul)) hnul
  refine iff_of_false ?_ hnul
  rw [Tree.find, if_neg (mt List.contains_iff_mem.mp hnul)]
  split
  · exact nofun
  split
  · exact nofun
  · exact walk_ne_nulInName tree _ _

end Files

/-! ## Resolved settings -/

namespace CommandLine

open Validation

variable {line : CommandLine} {environment : Environment}
  {readText : Path → Except IoFault (List Char)} {settings : Settings}

theorem admitted_of_resolve (hresolve : line.resolve environment readText = .ok settings) :
    settings.Admitted := by
  rw [resolve, bind_eq_ok_iff] at hresolve
  obtain ⟨configured, -, hresolve⟩ := hresolve
  obtain ⟨hvalid, hsettings⟩ := check_bind_eq_ok_iff.mp hresolve
  cases hsettings
  exact Settings.validate_eq_ok_iff_admitted.mp hvalid

end CommandLine

namespace Program

open Validation (checkPath)

variable {world : World} {settings : Settings}

theorem source_ne_nulInName (hfiles : Files.RefusesNul world.files)
    (hadmitted : settings.Admitted) {trouble : Trouble}
    (hsource : source world settings = .error trouble) : trouble.failure ≠ .io .nulInName := by
  unfold source at hsource
  split at hsource
  · cases hsource
  rename_i path hpath
  have hopens : world.files path ≠ .error .nulInName :=
    mt (hfiles path).mp (hadmitted.path path hpath).nulFree
  split at hsource
  · rename_i fault hfault
    cases hsource
    rintro ⟨⟩
    exact hopens hfault
  · cases hsource

/-- A path passes its check exactly when it is not empty and has no zero byte, as many of
which are shown as there are.  So the path of resolved settings is never refused for one. -/
theorem opening_nulFree :
    (∀ field path, checkPath field path = .ok () ↔ path.bytes ≠ [] ∧ 0 ∉ path.bytes) ∧
      (∀ path : Path, path.shown.count '\x00' = path.bytes.count 0) ∧
      (∀ tree : Files.Tree, Files.RefusesNul tree.find) ∧
      ∀ (line : CommandLine) environment readText settings path,
        line.resolve environment readText = .ok settings → settings.inputPath = some path →
        ∀ world : World, Files.RefusesNul world.files →
          world.files path ≠ .error .nulInName ∧
            ∀ trouble, source world settings = .error trouble →
              trouble.failure ≠ .io .nulInName := by
  refine ⟨fun field path => ?_, fun path => ?_, Files.refusesNul_find, ?_⟩
  · rw [Validation.checkPath_eq_ok_iff]
    exact ⟨fun husable => ⟨husable.nonempty, husable.nulFree⟩, fun hboth => ⟨hboth.1, hboth.2⟩⟩
  · exact Utf8.count_decodeLossy path.bytes (a := 0) (by decide)
  · intro line environment readText settings path hresolve hpath world hfiles
    have hadmitted := CommandLine.admitted_of_resolve hresolve
    exact ⟨mt (hfiles path).mp (hadmitted.path path hpath).nulFree,
      fun trouble hsource => source_ne_nulInName hfiles hadmitted hsource⟩

theorem opening_nulFree_broken :
    let path : Path := ⟨[0x66, 0xFF]⟩
    let other : Path := ⟨[0xC3, 0]⟩
    let line : CommandLine := { CommandLine.empty with input := some path }
    let settings : Settings := { Settings.default with inputPath := some path }
    let usage : Usage := ⟨12, 4194304, 8388608, ⟨1, 0⟩⟩
    let world : World :=
      { arguments := []
        environment := fun _ => none
        files := Files.Tree.find []
        input := Stream.ofBytes []
        memory := Memory.usual
        timing := ⟨⟨0, 70⟩, ⟨0, 0⟩⟩
        readings := ⟨usage, usage, usage⟩ }
    checkPath "input" other ≠ .ok () ∧ other.shown.count '\x00' = 1 ∧
      line.resolve world.environment (fun path => Files.readText (world.files path)) =
        .ok settings ∧
      world.files path ≠ .error .nulInName ∧
        ∀ trouble, source world settings = .error trouble → trouble.failure ≠ .io .nulInName := by
  intro path other line settings usage world
  obtain ⟨hcheck, hcount, htree, hopening⟩ := opening_nulFree
  have hresolve : line.resolve world.environment
      (fun path => Files.readText (world.files path)) = .ok settings := by decide +kernel
  refine ⟨fun hok => ((hcheck _ _).mp hok).2 (by decide), ?_, hresolve,
    hopening line _ _ settings path hresolve rfl world (htree [])⟩
  rw [hcount]
  rfl

end Program

end SegmentBench
