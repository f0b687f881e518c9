import SegmentBench.Proofs.Config.Leftmost
import SegmentBench.Proofs.Program.ExitCode
import SegmentBench.Proofs.Report.Masked

/-!
# Logging decides nothing

Two runs that differ in how they log, by their flags or by the filter of the environment,
go through the same phases.  They end with the same exit code and write the same, but for
the measured values.
-/

namespace SegmentBench

/-! ## Configurations and the variable of the filter -/

def CommandLine.withoutLogging (line : CommandLine) : CommandLine :=
  { line with verbose := false, logFormat := .compact }

theorem CommandLine.resolve_withoutLogging (line : CommandLine) (environment : Environment)
    (readText : Path → Except IoFault (List Char)) :
    line.withoutLogging.resolve environment readText = line.resolve environment readText := rfl

section

variable {first second : Environment} {absent : String}
  (hagree : ∀ known, known ≠ absent → first known = second known)

include hagree

theorem Config.ofText_of_absent {text : List Char} (habsent : ¬absent.toList <:+: text) :
    ofText first text = ofText second text := by
  rw [ofText, ofText, Placeholder.substitute_of_absent hagree habsent]

theorem CommandLine.resolve_of_absent {line : CommandLine}
    {readText : Path → Except IoFault (List Char)}
    (habsent : ∀ path text, line.config = some path → readText path = .ok text →
      ¬absent.toList <:+: text) :
    line.resolve first readText = line.resolve second readText := by
  apply resolve_congr
  unfold loaded
  split
  · rfl
  · rename_i path hpath
    cases htext : readText path with
    | error fault => rfl
    | ok text => exact Config.ofText_of_absent hagree (habsent path text hpath htext)

end

namespace Program

/-! ## Two runs -/

/-- The first run has the one command line, the second the other.  Apart from logging these
say the same, and nothing else of what a run meets is different, except for the times. -/
structure DifferInLogging (first second : World) (line other : CommandLine) : Prop where
  parsed : Arguments.parse first.arguments = .ok line
  otherParsed : Arguments.parse second.arguments = .ok other
  same : line.withoutLogging = other.withoutLogging
  environment : ∀ name, name ≠ Filter.variableName →
    first.environment name = second.environment name
  files : first.files = second.files
  input : first.input = second.input
  memory : first.memory = second.memory
  absent : ∀ path text, line.config = some path → Files.readText (first.files path) = .ok text →
    ¬Filter.variableName.toList <:+: text

namespace DifferInLogging

variable {first second : World} {line other : CommandLine}

theorem resolution_eq (hdiffer : DifferInLogging first second line other) :
    resolution first line = resolution second other := by
  unfold resolution
  rw [CommandLine.resolve_of_absent hdiffer.environment hdiffer.absent, hdiffer.files,
    ← line.resolve_withoutLogging, hdiffer.same, other.resolve_withoutLogging]

theorem source_eq (hdiffer : DifferInLogging first second line other) (settings : Settings) :
    Program.source first settings = Program.source second settings := by
  unfold Program.source
  rw [hdiffer.input, hdiffer.files]

theorem reading_eq (hdiffer : DifferInLogging first second line other) (settings : Settings)
    (source : Source) : reading first settings source = reading second settings source := by
  unfold reading
  rw [hdiffer.memory]

end DifferInLogging

structure SameButMeasured (first second : World) (output written : String) : Prop where
  masked : Report.mask output.toList = Report.mask written.toList
  timed : first.timing = second.timing → output = written

section

variable {first second : World} {line other : CommandLine} {settings : Settings} {source : Source}

theorem Configured.transfer (hdiffer : DifferInLogging first second line other)
    {parsed : CommandLine} (hconfigured : Configured first parsed settings) :
    Configured second other settings := by
  have hline : parsed = line := Except.ok.inj (hconfigured.parsed.symm.trans hdiffer.parsed)
  subst hline
  exact ⟨hdiffer.otherParsed, hdiffer.resolution_eq ▸ hconfigured.resolved⟩

theorem Opened.transfer (hdiffer : DifferInLogging first second line other)
    {parsed : CommandLine} (hopened : Opened first parsed settings source) :
    Opened second other settings source :=
  ⟨hopened.configured.transfer hdiffer, hdiffer.source_eq settings ▸ hopened.opened⟩

theorem HasRoom.transfer (hdiffer : DifferInLogging first second line other)
    {parsed : CommandLine} (hroom : HasRoom first parsed settings source) :
    HasRoom second other settings source :=
  ⟨hroom.opened.transfer hdiffer, hdiffer.memory ▸ hroom.room⟩

end

theorem sameButMeasured_printed {first second : World} (settings : Settings)
    (values : List Int32) (format : ReportFormat) :
    SameButMeasured first second (printed (measured first settings values) format)
      (printed (measured second settings values) format) where
  masked := by
    have hfindings : (measured first settings values).findings =
        (measured second settings values).findings := rfl
    cases format with
    | none => rfl
    | text => exact Report.mask_text_eq_iff.mpr hfindings
    | json => exact Report.mask_json_eq_iff.mpr hfindings
  timed := fun htiming => by rw [measured, measured, htiming]

theorem Ends.transfer {first second : World} {line other : CommandLine}
    (hdiffer : DifferInLogging first second line other) {code : UInt8} {output : String}
    (hends : Ends first code output) :
    ∃ written, Ends second code written ∧ SameButMeasured first second output written := by
  have hparsed := hdiffer.parsed
  cases hends with
  | help hasked =>
      rw [hasked] at hparsed
      cases hparsed
  | misuse hmisused =>
      rw [hmisused] at hparsed
      cases hparsed
  | refused hline hrefused =>
      rw [hline] at hparsed
      cases hparsed
      exact ⟨_, .refused hdiffer.otherParsed (hdiffer.resolution_eq ▸ hrefused), rfl, fun _ => rfl⟩
  | closed hconfigured hclosed =>
      exact ⟨_, .closed (hconfigured.transfer hdiffer) (hdiffer.source_eq _ ▸ hclosed), rfl,
        fun _ => rfl⟩
  | full hopened hfull =>
      exact ⟨_, .full (hopened.transfer hdiffer) (hdiffer.memory ▸ hfull), rfl, fun _ => rfl⟩
  | unread hroom hunread =>
      exact ⟨_, .unread (hroom.transfer hdiffer) (hdiffer.reading_eq _ _ ▸ hunread), rfl,
        fun _ => rfl⟩
  | finished hroom hread =>
      exact ⟨_, .finished (hroom.transfer hdiffer) (hdiffer.reading_eq _ _ ▸ hread),
        sameButMeasured_printed _ _ _⟩

/-- No choice of logging changes the exit code or shows in what is written. -/
theorem run_sameButMeasured {first second : World} {line other : CommandLine}
    (hdiffer : DifferInLogging first second line other) :
    (run first).exitCode = (run second).exitCode ∧
      SameButMeasured first second (run first).output (run second).output := by
  obtain ⟨code, output, hends⟩ := exists_ends first
  obtain ⟨written, hsecond, hsame⟩ := hends.transfer hdiffer
  obtain ⟨hcode, houtput⟩ := hends.run_eq
  obtain ⟨hcode', houtput'⟩ := hsecond.run_eq
  rw [hcode, hcode', houtput, houtput']
  exact ⟨rfl, hsame⟩

theorem run_sameButMeasured_verbose :
    let config : Path := ⟨[0x63]⟩
    let content : List Char := "[report]\nformat = \"json\"\n".toList
    let usage : Usage := ⟨12, 4194304, 8388608, ⟨1, 0⟩⟩
    let quiet : World :=
      { arguments := ["-c", "c", "-s", "1"].map fun word => Utf8.encode word.toList
        environment := fun _ => none
        files := fun path =>
          if path = config then .ok (.file (Utf8.encode content)) else .ok .directory
        input := Stream.ofBytes [0x35]
        memory := Memory.usual
        timing := ⟨⟨0, 70⟩, ⟨0, 0⟩⟩
        readings := ⟨usage, usage, usage⟩ }
    let verbose : World :=
      { quiet with
        arguments := ["-s1", "-vcc", "--log-format", "json"].map fun word => Utf8.encode word.toList
        environment := fun name => if name = Filter.variableName then some "off" else none
        timing := ⟨⟨1, 0⟩, ⟨9, 0⟩⟩ }
    let line : CommandLine := { CommandLine.empty with inputSize := some 1, config := some config }
    let other : CommandLine := { line with verbose := true, logFormat := .json }
    DifferInLogging quiet verbose line other ∧
      (run quiet).exitCode = (run verbose).exitCode ∧
        SameButMeasured quiet verbose (run quiet).output (run verbose).output := by
  intro config content usage quiet verbose line other
  have hdiffer : DifferInLogging quiet verbose line other :=
    { parsed := by decide +kernel
      otherParsed := by decide +kernel
      same := rfl
      environment := fun name hname => (if_neg hname).symm
      files := rfl
      input := rfl
      memory := rfl
      absent := by
        rintro path text hconfig htext
        cases hconfig
        have hread : Files.readText (quiet.files config) = .ok content := by decide +kernel
        rw [hread] at htext
        cases htext
        decide }
  exact ⟨hdiffer, run_sameButMeasured hdiffer⟩

end Program

end SegmentBench
