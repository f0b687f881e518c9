import SegmentBench.Program
import SegmentBench.Proofs.Engine.Runs
import SegmentBench.Proofs.Settings.Layers

/-!
# The exit code and the output

A run of the program goes through its phases in order: the arguments, the configuration,
the input, the room for the integers and the reading of them.  The first phase that fails
decides the exit code, and nothing is written before the last one is over.
-/

namespace SegmentBench.Program

/-! ## Phases -/

def resolution (world : World) (line : CommandLine) : Except Failure Settings :=
  line.resolve world.environment fun path => Files.readText (world.files path)

def reading (world : World) (settings : Settings) (source : Source) :
    Except Failure (List Int32) :=
  (source.stream.readIntegers world.memory settings.inputSize).1

structure Configured (world : World) (line : CommandLine) (settings : Settings) : Prop where
  parsed : Arguments.parse world.arguments = .ok line
  resolved : resolution world line = .ok settings

structure Opened (world : World) (line : CommandLine) (settings : Settings)
    (source : Source) : Prop where
  configured : Configured world line settings
  opened : Program.source world settings = .ok source

structure HasRoom (world : World) (line : CommandLine) (settings : Settings)
    (source : Source) : Prop where
  opened : Opened world line settings source
  room : reserve world.memory settings.inputSize = .ok ()

def printed (report : Report) : ReportFormat → String
  | .none => ""
  | .text => report.text ++ "\n"
  | .json => report.json ++ "\n"

theorem rendered_eq_printed (report : Report) (format : ReportFormat) :
    ((report.render format).map fun text => text ++ "\n").getD "" = printed report format := by
  cases format <;> rfl

def measured (world : World) (settings : Settings) (values : List Int32) : Report :=
  Engine.measure settings.algorithm settings.iterations values world.timing

/-- How a run ends, by the phase that is its last. -/
inductive Ends (world : World) : UInt8 → String → Prop where
  | help {detailed : Bool} (asked : Arguments.parse world.arguments = .error (.help detailed)) :
      Ends world 0 (Help.text detailed)
  | misuse {fault : ArgumentFault}
      (misused : Arguments.parse world.arguments = .error (.fault fault)) : Ends world 2 ""
  | refused {line : CommandLine} {failure : Failure}
      (parsed : Arguments.parse world.arguments = .ok line)
      (refused : resolution world line = .error failure) : Ends world 2 ""
  | closed {line : CommandLine} {settings : Settings} {trouble : Trouble}
      (configured : Configured world line settings)
      (closed : source world settings = .error trouble) : Ends world 1 ""
  | full {line : CommandLine} {settings : Settings} {source : Source} {fault : AllocationFault}
      (opened : Opened world line settings source)
      (full : reserve world.memory settings.inputSize = .error fault) : Ends world 3 ""
  | unread {line : CommandLine} {settings : Settings} {source : Source} {failure : Failure}
      (room : HasRoom world line settings source)
      (unread : reading world settings source = .error failure) : Ends world 1 ""
  | finished {line : CommandLine} {settings : Settings} {source : Source}
      {values : List Int32} (room : HasRoom world line settings source)
      (read : reading world settings source = .ok values) :
      Ends world 0 (printed (measured world settings values) settings.report)

theorem exists_ends (world : World) : ∃ code output, Ends world code output := by
  -- phase by phase, as long as the phases before it succeed
  cases hparse : Arguments.parse world.arguments with
  | error stop =>
      cases stop with
      | help detailed => exact ⟨_, _, .help hparse⟩
      | fault fault => exact ⟨_, _, .misuse hparse⟩
  | ok line =>
      cases hresolve : resolution world line with
      | error failure => exact ⟨_, _, .refused hparse hresolve⟩
      | ok settings =>
          have hconfigured : Configured world line settings := ⟨hparse, hresolve⟩
          cases hsource : source world settings with
          | error trouble => exact ⟨_, _, .closed hconfigured hsource⟩
          | ok source =>
              have hopened : Opened world line settings source := ⟨hconfigured, hsource⟩
              cases hroom : reserve world.memory settings.inputSize with
              | error fault => exact ⟨_, _, .full hopened hroom⟩
              | ok =>
                  cases hread : reading world settings source with
                  | error failure => exact ⟨_, _, .unread ⟨hopened, hroom⟩ hread⟩
                  | ok values => exact ⟨_, _, .finished ⟨hopened, hroom⟩ hread⟩

/-! ## The end of each phase -/

variable {world : World} {line : CommandLine} {settings : Settings} {source : Source}

section

variable (hparsed : Arguments.parse world.arguments = .ok line)

include hparsed

theorem run_of_trouble {trouble : Trouble}
    (hresult : (execute world line).result = .error trouble) :
    (run world).exitCode = trouble.failure.exitCode ∧ (run world).output = "" := by
  simp [run, hparsed, conclude, hresult]

theorem run_of_rendered {rendered : Option String}
    (hresult : (execute world line).result = .ok rendered) :
    (run world).exitCode = 0 ∧
      (run world).output = (rendered.map fun text => text ++ "\n").getD "" := by
  simp [run, hparsed, conclude, hresult]

end

theorem result_of_refused {failure : Failure}
    (hrefused : resolution world line = .error failure) :
    (execute world line).result = .error (configurationTrouble failure) := by
  unfold resolution at hrefused
  simp only [execute, hrefused]

theorem result_of_configured (hconfigured : Configured world line settings) :
    (execute world line).result = (benchmark world settings).result := by
  have hresolved := hconfigured.resolved
  unfold resolution at hresolved
  simp only [execute, hresolved]

theorem result_of_closed {trouble : Trouble}
    (hclosed : Program.source world settings = .error trouble) :
    (benchmark world settings).result = .error trouble := by
  simp only [benchmark, hclosed]

theorem result_of_opened (hopened : Opened world line settings source) :
    (execute world line).result =
      match reading world settings source with
      | .error failure => .error ⟨none, failure⟩
      | .ok values => .ok ((measured world settings values).render settings.report) := by
  rw [result_of_configured hopened.configured]
  simp only [benchmark, hopened.opened, Engine.outcome_run, reading]
  cases (source.stream.readIntegers world.memory settings.inputSize).1 <;> rfl

theorem source_eq_error_iff {trouble : Trouble} :
    Program.source world settings = .error trouble ↔
      ∃ path fault, settings.inputPath = some path ∧ world.files path = .error fault ∧
        trouble = openingTrouble path fault := by
  unfold Program.source
  constructor
  · intro herror
    split at herror
    · cases herror
    · rename_i path hpath
      split at herror
      · rename_i fault hfault
        cases herror
        exact ⟨path, fault, hpath, hfault, rfl⟩
      · cases herror
  · rintro ⟨path, fault, hpath, hfault, rfl⟩
    simp only [hpath, hfault]

theorem Ends.run_eq {code : UInt8} {output : String} (hends : Ends world code output) :
    (run world).exitCode = code ∧ (run world).output = output := by
  cases hends with
  | help hasked => simp [run, hasked, stopped]
  | misuse hmisused => simp [run, hmisused, stopped, Program.misuse]
  | refused hparsed hrefused =>
      have hcategory := (CommandLine.resolve_eq_error_iff.mp hrefused).category
      have hrun := run_of_trouble hparsed (result_of_refused hrefused)
      simpa only [configurationTrouble, Failure.exitCode, hcategory] using hrun
  | closed hconfigured hclosed =>
      have hresult := result_of_configured hconfigured
      rw [result_of_closed hclosed] at hresult
      obtain ⟨path, fault, _, _, rfl⟩ := source_eq_error_iff.mp hclosed
      exact run_of_trouble hconfigured.parsed hresult
  | full hopened hfull =>
      have hresult := result_of_opened hopened
      rw [reading, Stream.readIntegers_of_full hfull] at hresult
      exact run_of_trouble hopened.configured.parsed hresult
  | unread hroom hunread =>
      have hresult := result_of_opened hroom.opened
      rw [hunread] at hresult
      have hcategory := Stream.category_of_readIntegers hroom.room hunread
      have hrun := run_of_trouble hroom.opened.configured.parsed hresult
      simpa only [Failure.exitCode, hcategory] using hrun
  | finished hroom hread =>
      have hresult := result_of_opened hroom.opened
      rw [hread] at hresult
      have hrun := run_of_rendered hroom.opened.configured.parsed hresult
      rwa [rendered_eq_printed] at hrun

theorem exitCode_eq_iff {code : UInt8} :
    (run world).exitCode = code ↔ ∃ output, Ends world code output := by
  constructor
  · rintro rfl
    obtain ⟨code, output, hends⟩ := exists_ends world
    exact ⟨output, hends.run_eq.1 ▸ hends⟩
  · rintro ⟨output, hends⟩
    exact hends.run_eq.1

/-! ## What the exit code and the output tell -/

/-- What the exit code tells of the phases, and what is written. -/
structure Contract (world : World) (outcome : Outcome) : Prop where
  known : outcome.exitCode ∈ [0, 1, 2, 3]
  success : outcome.exitCode = 0 ↔
    (∃ detailed, Arguments.parse world.arguments = .error (.help detailed)) ∨
      ∃ line settings source values, HasRoom world line settings source ∧
        reading world settings source = .ok values
  input : outcome.exitCode = 1 ↔
    (∃ line settings path fault, Configured world line settings ∧
      settings.inputPath = some path ∧ world.files path = .error fault) ∨
      ∃ line settings source failure, HasRoom world line settings source ∧
        reading world settings source = .error failure ∧ failure.category = .input
  misuse : outcome.exitCode = 2 ↔
    (∃ fault, Arguments.parse world.arguments = .error (.fault fault)) ∨
      ∃ line failure, Arguments.parse world.arguments = .ok line ∧
        resolution world line = .error failure
  full : outcome.exitCode = 3 ↔
    ∃ line settings source fault, Opened world line settings source ∧
      reserve world.memory settings.inputSize = .error fault
  help : ∀ detailed, Arguments.parse world.arguments = .error (.help detailed) →
    outcome.output = Help.text detailed
  report : ∀ line settings source values, HasRoom world line settings source →
    reading world settings source = .ok values →
      outcome.output = printed (measured world settings values) settings.report
  silent : outcome.exitCode ≠ 0 → outcome.output = ""

theorem run_contract (world : World) : Contract world (run world) where
  known := by
    obtain ⟨code, output, hends⟩ := exists_ends world
    rw [hends.run_eq.1]
    cases hends <;> decide
  success := by
    rw [exitCode_eq_iff]
    constructor
    · rintro ⟨output, hends⟩
      cases hends with
      | help hasked => exact .inl ⟨_, hasked⟩
      | finished hroom hread => exact .inr ⟨_, _, _, _, hroom, hread⟩
    · rintro (⟨detailed, hasked⟩ | ⟨line, settings, source, values, hroom, hread⟩)
      · exact ⟨_, .help hasked⟩
      · exact ⟨_, .finished hroom hread⟩
  input := by
    rw [exitCode_eq_iff]
    constructor
    · rintro ⟨output, hends⟩
      cases hends with
      | closed hconfigured hclosed =>
          obtain ⟨path, fault, hpath, hfault, _⟩ := source_eq_error_iff.mp hclosed
          exact .inl ⟨_, _, path, fault, hconfigured, hpath, hfault⟩
      | unread hroom hunread =>
          have hcategory := Stream.category_of_readIntegers hroom.room hunread
          exact .inr ⟨_, _, _, _, hroom, hunread, hcategory⟩
    · rintro (⟨line, settings, path, fault, hconfigured, hpath, hfault⟩ |
        ⟨line, settings, source, failure, hroom, hunread, _⟩)
      · have hclosed := source_eq_error_iff.mpr ⟨path, fault, hpath, hfault, rfl⟩
        exact ⟨_, .closed hconfigured hclosed⟩
      · exact ⟨_, .unread hroom hunread⟩
  misuse := by
    rw [exitCode_eq_iff]
    constructor
    · rintro ⟨output, hends⟩
      cases hends with
      | misuse hmisused => exact .inl ⟨_, hmisused⟩
      | refused hparsed hrefused => exact .inr ⟨_, _, hparsed, hrefused⟩
    · rintro (⟨fault, hmisused⟩ | ⟨line, failure, hparsed, hrefused⟩)
      · exact ⟨_, .misuse hmisused⟩
      · exact ⟨_, .refused hparsed hrefused⟩
  full := by
    rw [exitCode_eq_iff]
    constructor
    · rintro ⟨output, hends⟩
      cases hends with
      | full hopened hfull => exact ⟨_, _, _, _, hopened, hfull⟩
    · rintro ⟨line, settings, source, fault, hopened, hfull⟩
      exact ⟨_, .full hopened hfull⟩
  help := by
    intro detailed hasked
    exact (Ends.help hasked).run_eq.2
  report := by
    intro line settings source values hroom hread
    exact (Ends.finished hroom hread).run_eq.2
  silent := by
    intro hfailed
    obtain ⟨code, output, hends⟩ := exists_ends world
    obtain ⟨hcode, houtput⟩ := hends.run_eq
    rw [houtput]
    rw [hcode] at hfailed
    cases hends with
    | help | finished => exact absurd rfl hfailed
    | misuse | refused | closed | full | unread => rfl

end SegmentBench.Program
