import SegmentBench.Needs
import SegmentBench.Proofs.Input.Settled
import SegmentBench.Proofs.Program.ExitCode

/-!
# What a run needs is enough

Lines settle a read exactly when they leave no need of another one.  A run in a world of which
no more is known than what it needs gives the same as in the whole world.
-/

namespace SegmentBench

open SegmentBench.Stream (newline)

/-! ## Lines -/

def IsLine (line : Bytes) : Prop := ∃ text, newline ∉ text ∧ line = text ++ [newline]

namespace Progress

variable {expected : Nat} {progress : Progress} {lines : List Bytes}

theorem settled_nil_iff : Settled expected progress [] ↔ ¬progress.count < expected := by
  refine ⟨fun hsettled hmore => ?_, fun henough => settled_of_enough henough []⟩
  exact List.not_mem_nil (hsettled.newline_mem hmore)

theorem settled_cons_iff {line : Bytes} (hmore : progress.count < expected) (hline : IsLine line)
    (behind : Bytes) :
    Settled expected progress (line ++ behind) ↔
      ∀ next, progress.takeLine expected line = .ok next → Settled expected next behind := by
  obtain ⟨text, hopen, rfl⟩ := hline
  have htake : SegmentBench.takeLine newline (text ++ newline :: behind) = text ++ [newline] := by
    rw [takeLine_append_of_notMem hopen, takeLine_mark]
  have hdrop : dropLine newline (text ++ newline :: behind) = behind := by
    rw [dropLine_append_of_notMem hopen, dropLine_mark]
  rw [List.append_assoc, List.singleton_append, settled_iff hmore, htake, hdrop]
  exact and_iff_right (List.mem_append_right _ List.mem_cons_self)

theorem settled_flatten_iff (hlines : ∀ line ∈ lines, IsLine line) :
    Settled expected progress lines.flatten ↔
      (progress.unfinished? expected).bind (lines.foldlM (further? expected)) = none := by
  induction lines generalizing progress with
  | nil =>
      rw [List.flatten_nil, settled_nil_iff, unfinished?]
      split <;> simp [*]
  | cons line lines ih =>
      obtain ⟨hline, hothers⟩ := List.forall_mem_cons.mp hlines
      rw [unfinished?]
      split
      · rename_i hmore
        rw [List.flatten_cons, settled_cons_iff hmore hline, Option.bind_some, List.foldlM_cons,
          further?]
        cases progress.takeLine expected line with
        | error failure => simp
        | ok next => simpa using ih hothers
      · rename_i henough
        exact iff_of_true (settled_of_enough henough _) rfl

end Progress

/-- Lines that leave no need of another settle the read, and only those do. -/
theorem Request.settledBy_flatten_iff {request : Request} {lines : List Bytes}
    (hlines : ∀ line ∈ lines, IsLine line) :
    request.SettledBy lines.flatten ↔
      request.first?.bind (lines.foldlM (Progress.further? request.count.toNat)) = none := by
  unfold first?
  cases hroom : reserve request.memory request.count with
  | error fault => exact iff_of_true (settledBy_of_full hroom _) rfl
  | ok => rw [settledBy_iff hroom, Progress.settled_flatten_iff hlines]

/-! ## The configuration -/

theorem Placeholder.substitute_of_names {first second : Environment} {text : List Char}
    (hagree : ∀ name ∈ names text, first name = second name) :
    substitute first text = substitute second text := by
  refine List.flatMap_congr fun piece hpiece => ?_
  cases piece with
  | plain c => rfl
  | named name =>
      have hname : String.ofList name ∈ names text :=
        List.mem_filterMap.mpr ⟨.named name, hpiece, rfl⟩
      rw [Piece.value, Piece.value, value, value, hagree _ hname]

theorem Config.ofText_of_names {first second : Environment} {text : List Char}
    (hagree : ∀ name ∈ Placeholder.names text, first name = second name) :
    ofText first text = ofText second text := by
  rw [ofText, ofText, Placeholder.substitute_of_names hagree]

/-! ## Runs -/

theorem Engine.run_of_reads {memory : Memory} {settings : Settings} {first second : Stream}
    (name : String) (monitor : Monitor) (timing : Timing) (readings : Readings)
    (hreads : (first.readIntegers memory settings.inputSize).1 =
      (second.readIntegers memory settings.inputSize).1) :
    (run memory settings ⟨name, first⟩ monitor timing readings).outcome =
        (run memory settings ⟨name, second⟩ monitor timing readings).outcome ∧
      (run memory settings ⟨name, first⟩ monitor timing readings).events =
        (run memory settings ⟨name, second⟩ monitor timing readings).events := by
  constructor
  · rw [outcome_run, outcome_run, hreads]
  · cases hread : (second.readIntegers memory settings.inputSize).1 with
    | error failure =>
        rw [hread] at hreads
        rw [events_of_failed hreads, events_of_failed hread]
    | ok values =>
        rw [hread] at hreads
        rw [events_of_read hreads, events_of_read hread]

namespace Program

/-- What is known of a source, and what there is: the same, or what settles the request. -/
inductive Provides (request : Request) : Except Trouble Source → Except Trouble Source → Prop where
  | same {source : Except Trouble Source} : Provides request source source
  | settled {name : String} {front : Bytes} (settled : request.SettledBy front) (behind : Bytes) :
      Provides request (.ok ⟨name, Stream.ofBytes front⟩)
        (.ok ⟨name, Stream.ofBytes (front ++ behind)⟩)

/-- The world is known as far as the needs go that can be told from what is known of it. -/
structure Suffices (known world : World) : Prop where
  arguments : known.arguments = world.arguments
  configuration : ∀ path ∈ known.configPath?, known.files path = world.files path
  environment : ∀ name ∈ known.variableNames, known.environment name = world.environment name
  source : ∀ settings ∈ known.settings?,
    Provides (known.request settings) (source known settings) (source world settings)
  memory : known.memory = world.memory
  timing : known.timing = world.timing
  readings : known.readings = world.readings

variable {known world : World} {line : CommandLine}

theorem line?_of_parsed (hparsed : Arguments.parse known.arguments = .ok line) :
    known.line? = some line := by
  rw [World.line?, hparsed]
  rfl

namespace Suffices

theorem loaded_eq (hsuffices : Suffices known world)
    (hparsed : Arguments.parse known.arguments = .ok line) :
    line.loaded known.environment (fun path => Files.readText (known.files path)) =
      line.loaded world.environment (fun path => Files.readText (world.files path)) := by
  unfold CommandLine.loaded
  split
  · rfl
  · rename_i path hpath
    have hconfig : known.configPath? = some path := by
      rw [World.configPath?, line?_of_parsed hparsed, Option.bind_some, hpath]
    simp only [← hsuffices.configuration path hconfig]
    cases htext : Files.readText (known.files path) with
    | error fault => rfl
    | ok text =>
        refine Config.ofText_of_names fun name hname => hsuffices.environment name ?_
        have hknown : known.configText? = some text := by
          rw [World.configText?, hconfig, Option.bind_some, htext]
          rfl
        rw [World.variableNames, hknown]
        exact List.mem_cons_of_mem _ hname

theorem resolution_eq (hsuffices : Suffices known world)
    (hparsed : Arguments.parse known.arguments = .ok line) :
    resolution known line = resolution world line :=
  CommandLine.resolve_congr (hsuffices.loaded_eq hparsed)

theorem benchmark_eq (hsuffices : Suffices known world) {settings : Settings}
    (hsettings : known.settings? = some settings) :
    benchmark known settings = benchmark world settings := by
  have hsource := hsuffices.source settings hsettings
  unfold benchmark
  rw [← hsuffices.memory, ← hsuffices.timing, ← hsuffices.readings]
  generalize Program.source known settings = first at hsource ⊢
  generalize Program.source world settings = second at hsource ⊢
  cases hsource with
  | same => rfl
  | @settled name front hsettled behind =>
      have hreads : ((Stream.ofBytes front).readIntegers known.memory settings.inputSize).1 =
          ((Stream.ofBytes (front ++ behind)).readIntegers known.memory settings.inputSize).1 :=
        (hsettled.readIntegers_append behind).symm
      obtain ⟨houtcome, hevents⟩ := Engine.run_of_reads name (Monitor.make settings.monitor)
        known.timing known.readings hreads
      simp only [houtcome, hevents]

theorem execute_eq (hsuffices : Suffices known world)
    (hparsed : Arguments.parse known.arguments = .ok line) :
    execute known line = execute world line := by
  have hresolution := hsuffices.resolution_eq hparsed
  unfold resolution at hresolution
  unfold execute
  rw [← hresolution]
  cases hresolved : line.resolve known.environment (fun path => Files.readText (known.files path))
  with
  | error failure => rfl
  | ok settings =>
      have hsettings : known.settings? = some settings := by
        rw [World.settings?, line?_of_parsed hparsed, Option.bind_some, hresolved]
        rfl
      simp only [hsuffices.benchmark_eq hsettings]

end Suffices

/-- A run looks at nothing but what it needs. -/
theorem run_of_suffices {known world : World} (hsuffices : Suffices known world) :
    run known = run world := by
  have hfilter (verbose : Bool) :
      Filter.choose known.environment verbose = Filter.choose world.environment verbose := by
    rw [Filter.choose, Filter.choose, hsuffices.environment _ List.mem_cons_self]
  unfold run
  rw [← hsuffices.arguments]
  cases hparsed : Arguments.parse known.arguments with
  | error stop => rfl
  | ok line => simp only [hfilter, hsuffices.execute_eq hparsed]

/-- Of the input stream the lines are enough that leave no need of another. -/
theorem run_of_lines {world : World} {lines : List Bytes} {behind : Bytes}
    (hlines : ∀ line ∈ lines, IsLine line)
    (hinput : world.input = Stream.ofBytes (lines.flatten ++ behind))
    (hlast : ∀ settings ∈ world.settings?,
      (world.request settings).first?.bind
        (lines.foldlM (Progress.further? settings.inputSize.toNat)) = none) :
    run { world with input := Stream.ofBytes lines.flatten } = run world := by
  apply run_of_suffices
  refine ⟨rfl, fun _ _ => rfl, fun _ _ => rfl, fun settings hsettings => ?_, rfl, rfl, rfl⟩
  unfold source
  cases settings.inputPath with
  | none =>
      rw [hinput]
      exact .settled ((Request.settledBy_flatten_iff hlines).mpr (hlast settings hsettings)) behind
  | some path => exact .same

end Program

end SegmentBench
