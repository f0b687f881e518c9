import SegmentBench.Files.Tree
import SegmentBench.Proofs.Settings.Checks
import SegmentBench.Resolve

/-!
# The layers of the settings

The settings come from the command line, from the configuration file under it, and
from the defaults under both.  They are resolved exactly when the file can be read,
is a configuration and is admitted, and the settings made of all layers are admitted
too; the first of these that fails is the failure.
-/

namespace SegmentBench

/-! ## Readable files -/

namespace Files

/-- Why what a path gives is no text. -/
inductive Unreadable : Except IoFault Entry → IoFault → Prop where
  | refused {fault : IoFault} : Unreadable (.error fault) fault
  | directory : Unreadable (.ok .directory) (.system SystemError.isDirectory)
  | notText {content : Bytes} (broken : ∀ text, content ≠ Utf8.encode text) :
      Unreadable (.ok (.file content)) .notText

theorem readText_eq_ok_iff {entry : Except IoFault Entry} {text : List Char} :
    readText entry = .ok text ↔ entry = .ok (.file (Utf8.encode text)) := by
  rcases entry with fault | content | _
  · simp [readText]
  · simp only [readText, Except.ok.injEq, Entry.file.injEq, ← Utf8.decode?_eq_some_iff]
    cases Utf8.decode? content <;> simp
  · simp [readText]

theorem readText_eq_error_iff {entry : Except IoFault Entry} {fault : IoFault} :
    readText entry = .error fault ↔ Unreadable entry fault := by
  constructor
  · intro herror
    rcases entry with refusal | content | _
    · cases herror
      exact .refused
    · simp only [readText] at herror
      split at herror
      · rename_i hdecode
        cases herror
        refine .notText fun text heq => ?_
        rw [Utf8.decode?_eq_some_iff.mpr heq] at hdecode
        cases hdecode
      · cases herror
    · cases herror
      exact .directory
  · rintro (_ | _ | hbroken)
    · rfl
    · rfl
    · rename_i content
      have hdecode : Utf8.decode? content = none :=
        Option.eq_none_iff_forall_ne_some.mpr fun text =>
          mt Utf8.decode?_eq_some_iff.mp (hbroken text)
      simp only [readText, hdecode]

end Files

theorem Config.ofText_eq_error {environment : Environment} {text : List Char}
    {failure : Failure} (herror : Config.ofText environment text = .error failure) :
    ∃ fault, failure = .badDocument fault := by
  unfold ofText at herror
  split at herror
  · cases herror
    exact ⟨_, rfl⟩
  split at herror
  · cases herror
    exact ⟨_, rfl⟩
  · cases herror

namespace CommandLine

open Validation

variable {line : CommandLine} {environment : Environment}
  {files : Path → Except IoFault Entry} {config : Config} {failure : Failure}

/-! ## Layers -/

/-- Each setting from the highest layer that has it. -/
def layered (line : CommandLine) (config : Config) : Settings where
  iterations := (line.iterations.or config.benchmark.iterations).getD 30000000
  inputSize := (line.inputSize.or config.benchmark.inputSize).getD 97
  algorithm := (line.algorithm.or config.benchmark.algorithm).getD .clamped
  inputPath := line.input.or (config.input.bind fun input => input.path)
  report := (line.report.or (config.report.map fun report => report.format)).getD .none
  monitor := line.monitor || config.monitoring = some ⟨true⟩

theorem apply_merge (line : CommandLine) (config : Config) :
    line.apply (Settings.default.merge config) = line.layered config := by
  have hmonitor : config.monitoringEnabled.getD false =
      decide (config.monitoring = some ⟨true⟩) := by
    rw [Config.monitoringEnabled]
    rcases config.monitoring with _ | ⟨_ | _⟩ <;> rfl
  simp only [apply, Settings.merge, Settings.default, layered, Option.getD_or, Option.or_none,
    hmonitor]
  rfl

/-! ## The configuration -/

def loaded (line : CommandLine) (environment : Environment)
    (readText : Path → Except IoFault (List Char)) : Except Failure Config :=
  match line.config with
  | none => .ok Config.empty
  | some path => Config.ofFile environment path (readText path)

theorem resolve_eq (line : CommandLine) (environment : Environment)
    (readText : Path → Except IoFault (List Char)) :
    line.resolve environment readText = (do
      let config ← line.loaded environment readText
      config.validate
      (line.layered config).validate
      .ok (line.layered config)) := by
  simp only [resolve, configured, loaded, ← apply_merge]
  cases line.config with
  | none => rfl -- the empty configuration is admitted, and changes nothing
  | some path =>
      simp only [bind_assoc]
      rfl

theorem resolve_congr {readText readOther : Path → Except IoFault (List Char)}
    {other : Environment}
    (hloaded : line.loaded environment readText = line.loaded other readOther) :
    line.resolve environment readText = line.resolve other readOther := by
  rw [resolve_eq, resolve_eq, hloaded]

inductive Loads (line : CommandLine) (environment : Environment)
    (files : Path → Except IoFault Entry) : Config → Prop where
  | nothing (absent : line.config = none) : Loads line environment files Config.empty
  | file {path : Path} {text : List Char} {config : Config} (given : line.config = some path)
      (content : files path = .ok (.file (Utf8.encode text)))
      (accepted : Config.ofText environment text = .ok config) :
      Loads line environment files config

inductive Unloadable (line : CommandLine) (environment : Environment)
    (files : Path → Except IoFault Entry) : Failure → Prop where
  | unreadable {path : Path} {fault : IoFault} (given : line.config = some path)
      (unreadable : Files.Unreadable (files path) fault) :
      Unloadable line environment files
        (.configuration ("cannot read " ++ path.display ++ ": " ++ fault.message))
  | malformed {path : Path} {text : List Char} {fault : DocumentFault}
      (given : line.config = some path)
      (content : files path = .ok (.file (Utf8.encode text)))
      (malformed : Config.ofText environment text = .error (.badDocument fault)) :
      Unloadable line environment files (.badDocument fault)

theorem loaded_eq_ok_iff :
    line.loaded environment (fun path => Files.readText (files path)) = .ok config ↔
      Loads line environment files config := by
  unfold loaded
  constructor
  · intro hok
    cases hgiven : line.config with
    | none =>
        simp only [hgiven, Except.ok.injEq] at hok
        exact hok ▸ .nothing hgiven
    | some path =>
        simp only [hgiven, Config.ofFile] at hok
        split at hok
        · cases hok
        · rename_i text hread
          exact .file hgiven (Files.readText_eq_ok_iff.mp hread) hok
  · rintro (habsent | ⟨hgiven, hcontent, haccepted⟩)
    · simp only [habsent]
    · simp only [hgiven, Config.ofFile, Files.readText_eq_ok_iff.mpr hcontent, haccepted]

theorem loaded_eq_error_iff :
    line.loaded environment (fun path => Files.readText (files path)) = .error failure ↔
      Unloadable line environment files failure := by
  unfold loaded
  constructor
  · intro herror
    cases hgiven : line.config with
    | none =>
        simp only [hgiven] at herror
        cases herror
    | some path =>
        simp only [hgiven, Config.ofFile] at herror
        split at herror
        · rename_i fault hread
          cases herror
          exact .unreadable hgiven (Files.readText_eq_error_iff.mp hread)
        · rename_i text hread
          obtain ⟨fault, rfl⟩ := Config.ofText_eq_error herror
          exact .malformed hgiven (Files.readText_eq_ok_iff.mp hread) herror
  · rintro (⟨hgiven, hunreadable⟩ | ⟨hgiven, hcontent, hmalformed⟩)
    · simp only [hgiven, Config.ofFile, Files.readText_eq_error_iff.mpr hunreadable]
    · simp only [hgiven, Config.ofFile, Files.readText_eq_ok_iff.mpr hcontent, hmalformed]

/-! ## The settings -/

/-- The first thing wrong with what a command line asks for. -/
inductive Fails (line : CommandLine) (environment : Environment)
    (files : Path → Except IoFault Entry) (failure : Failure) : Prop where
  | load (unloadable : Unloadable line environment files failure)
  | file {config : Config} (loads : Loads line environment files config)
      (refused : config.Refused failure)
  | settings {config : Config} (loads : Loads line environment files config)
      (admitted : config.Admitted) (refused : (line.layered config).Refused failure)

theorem resolve_eq_ok_iff {settings : Settings} :
    line.resolve environment (fun path => Files.readText (files path)) = .ok settings ↔
      ∃ config, Loads line environment files config ∧ config.Admitted ∧
        (line.layered config).Admitted ∧ settings = line.layered config := by
  rw [resolve_eq, bind_eq_ok_iff]
  simp only [check_bind_eq_ok_iff, loaded_eq_ok_iff, Config.validate_eq_ok_iff,
    Settings.validate_eq_ok_iff_admitted, Except.ok.injEq, @eq_comm Settings settings]

theorem resolve_eq_error_iff :
    line.resolve environment (fun path => Files.readText (files path)) = .error failure ↔
      Fails line environment files failure := by
  rw [resolve_eq, bind_eq_error_iff]
  simp only [check_bind_eq_error_iff, loaded_eq_ok_iff, loaded_eq_error_iff,
    Config.validate_eq_ok_iff, Config.validate_eq_error_iff, Settings.validate_eq_error_iff,
    reduceCtorEq, and_false, or_false]
  constructor
  · rintro (hunloadable | ⟨config, hloads, hrefused | ⟨hadmitted, hrefused⟩⟩)
    · exact .load hunloadable
    · exact .file hloads hrefused
    · exact .settings hloads hadmitted hrefused
  · rintro (hunloadable | ⟨hloads, hrefused⟩ | ⟨hloads, hadmitted, hrefused⟩)
    · exact .inl hunloadable
    · exact .inr ⟨_, hloads, .inl hrefused⟩
    · exact .inr ⟨_, hloads, .inr ⟨hadmitted, hrefused⟩⟩

theorem Fails.category (hfails : Fails line environment files failure) :
    failure.category = .configuration := by
  rcases hfails with ⟨_ | _⟩ | ⟨_, _ | _⟩ | ⟨_, _, _ | _⟩ <;> rfl

/-- The settings are those of the layers, exactly when nothing is wrong with them, and the
first thing wrong is what is reported. -/
theorem resolve_layers (line : CommandLine) (environment : Environment)
    (files : Path → Except IoFault Entry) :
    (∀ settings, line.resolve environment (fun path => Files.readText (files path)) =
        .ok settings ↔
      ∃ config, Loads line environment files config ∧ config.Admitted ∧
        (line.layered config).Admitted ∧ settings = line.layered config) ∧
      ∀ failure, line.resolve environment (fun path => Files.readText (files path)) =
          .error failure ↔
        Fails line environment files failure :=
  ⟨fun _ => resolve_eq_ok_iff, fun _ => resolve_eq_error_iff⟩

end CommandLine

end SegmentBench
