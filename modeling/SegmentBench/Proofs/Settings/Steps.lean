import SegmentBench.Arguments.CommandLine
import SegmentBench.Proofs.Config.Contents

/-!
# Settings after any number of steps

Configurations and command lines are put over the settings one after another.  However
many there are and in whatever order they come, each setting is as the last one of them
says that says anything of it, and as it was before them where none does.
-/

namespace SegmentBench

/-! ## What is put over the settings -/

/-- What a command line has for a setting.  The monitoring can only be asked for. -/
def CommandLine.given (line : CommandLine) : (setting : Setting) → Option setting.Content
  | .iterations => line.iterations
  | .inputSize => line.inputSize
  | .algorithm => line.algorithm
  | .path => line.input
  | .format => line.report
  | .enabled => if line.monitor then some true else none

namespace Settings

def held (settings : Settings) : (setting : Setting) → Option setting.Content
  | .iterations => some settings.iterations
  | .inputSize => some settings.inputSize
  | .algorithm => some settings.algorithm
  | .path => settings.inputPath
  | .format => some settings.report
  | .enabled => some settings.monitor

theorem ext_held {settings others : Settings}
    (hsame : ∀ setting, settings.held setting = others.held setting) : settings = others := by
  cases settings
  cases others
  rw [mk.injEq]
  exact ⟨Option.some.inj (hsame .iterations), Option.some.inj (hsame .inputSize),
    Option.some.inj (hsame .algorithm), hsame .path, Option.some.inj (hsame .format),
    Option.some.inj (hsame .enabled)⟩

inductive Step where
  | merge (config : Config)
  | apply (line : CommandLine)

def Step.given : Step → (setting : Setting) → Option setting.Content
  | .merge config => config.given
  | .apply line => line.given

def step (settings : Settings) : Step → Settings
  | .merge config => settings.merge config
  | .apply line => line.apply settings

def run (settings : Settings) (steps : List Step) : Settings := steps.foldl step settings

/-! ## One step -/

variable (settings : Settings)

theorem held_merge (config : Config) (setting : Setting) :
    (settings.merge config).held setting = (config.given setting).or (settings.held setting) := by
  cases setting
  case path => rfl
  all_goals exact (Option.or_some ..).symm

theorem held_apply (line : CommandLine) (setting : Setting) :
    (line.apply settings).held setting = (line.given setting).or (settings.held setting) := by
  cases setting
  case path => rfl
  case enabled =>
    rw [CommandLine.given]
    cases hmonitor : line.monitor <;> simp [held, CommandLine.apply, hmonitor]
  all_goals exact (Option.or_some ..).symm

@[simp] theorem held_step (step : Step) (setting : Setting) :
    (settings.step step).held setting = (step.given setting).or (settings.held setting) := by
  cases step with
  | merge config => exact held_merge settings config setting
  | apply line => exact held_apply settings line setting

theorem step_step_self (step : Step) : (settings.step step).step step = settings.step step :=
  ext_held fun setting => by rw [held_step, held_step, ← Option.or_assoc, Option.or_self]

theorem step_comm {first second : Step}
    (hapart : ∀ setting, first.given setting = none ∨ second.given setting = none) :
    (settings.step second).step first = (settings.step first).step second := by
  refine ext_held fun setting => ?_
  simp only [held_step]
  obtain hnone | hnone := hapart setting <;> rw [hnone, Option.none_or, Option.none_or]

/-! ## Any number of steps -/

theorem run_append (before after : List Step) :
    settings.run (before ++ after) = (settings.run before).run after :=
  List.foldl_append ..

theorem run_cons (step : Step) (after : List Step) :
    settings.run (step :: after) = (settings.step step).run after := rfl

theorem held_run {steps : List Step} {setting : Setting}
    (hsilent : ∀ step ∈ steps, step.given setting = none) :
    (settings.run steps).held setting = settings.held setting := by
  induction steps generalizing settings with
  | nil => rfl
  | cons step after ih =>
      obtain ⟨hstep, hafter⟩ := List.forall_mem_cons.mp hsilent
      rw [run_cons, ih _ hafter, held_step, hstep, Option.none_or]

/-- Each setting is as the last step says that says anything of it.  A step done twice is
done once, and steps that say nothing of the same setting may change places. -/
theorem run_last (steps : List Step) :
    (∀ setting content before step after, steps = before ++ step :: after →
        step.given setting = some content → (∀ later ∈ after, later.given setting = none) →
        (settings.run steps).held setting = some content) ∧
      (∀ setting, (∀ step ∈ steps, step.given setting = none) →
        (settings.run steps).held setting = settings.held setting) ∧
      (∀ before step after, steps = before ++ step :: after →
        settings.run (before ++ step :: step :: after) = settings.run steps) ∧
      ∀ before first second after, steps = before ++ first :: second :: after →
        (∀ setting, first.given setting = none ∨ second.given setting = none) →
        settings.run (before ++ second :: first :: after) = settings.run steps := by
  refine ⟨?_, fun setting => held_run settings, ?_, ?_⟩
  · rintro setting content before step after rfl hgiven hsilent
    rw [run_append, run_cons, held_run _ hsilent, held_step, hgiven, Option.some_or]
  · rintro before step after rfl
    simp only [run_append, run_cons, step_step_self]
  · rintro before first second after rfl hapart
    simp only [run_append, run_cons, step_comm _ hapart]

theorem run_last_apart :
    let file : Step := .merge ⟨⟨some 5, none, none⟩, none, none, none⟩
    let line : Step := .apply { CommandLine.empty with inputSize := some 7, monitor := true }
    let settings := default.run [file, line]
    settings.held .iterations = some 5 ∧ settings.held .format = some .none ∧
      default.run [file, file, line] = settings ∧ default.run [line, file] = settings := by
  intro file line settings
  obtain ⟨hlast, hsilent, hagain, hapart⟩ := run_last default [file, line]
  refine ⟨hlast .iterations 5 [] file [line] rfl rfl ?_, hsilent .format ?_,
    hagain [] file [line] rfl, hapart [] file line [] rfl fun setting => ?_⟩
  · exact List.forall_mem_singleton.mpr rfl
  · exact List.forall_mem_cons.mpr ⟨rfl, List.forall_mem_singleton.mpr rfl⟩
  · cases setting
    case iterations => exact .inr rfl
    all_goals exact .inl rfl

end Settings

end SegmentBench
