import SegmentBench.Proofs.Config.Optional
import SegmentBench.Proofs.Document.Ordered

/-!
# What a configuration takes from a document

Each setting is in the configuration exactly when its key is in the document, as what is
written there.  No value is dropped, made up or taken from another key.
-/

namespace SegmentBench

open Document (Value Ordered)

/-! ## Settings and what they hold -/

abbrev Setting.Content : Setting → Type
  | .iterations | .inputSize => UInt64
  | .algorithm => Algorithm
  | .path => Path
  | .format => ReportFormat
  | .enabled => Bool

def BenchmarkSection.given (known : BenchmarkSection) : (setting : Setting) → Option setting.Content
  | .iterations => known.iterations
  | .inputSize => known.inputSize
  | .algorithm => known.algorithm
  | .path | .format | .enabled => none

def Config.given (config : Config) : (setting : Setting) → Option setting.Content
  | .iterations => config.benchmark.iterations
  | .inputSize => config.benchmark.inputSize
  | .algorithm => config.benchmark.algorithm
  | .path => config.input.bind fun input => input.path
  | .format => config.report.map fun report => report.format
  | .enabled => config.monitoring.map fun monitoring => monitoring.enabled

/-- A choice by its name, or by a table with that name as its only key and nothing in it. -/
inductive Chosen (name : String) : Value → Prop where
  | named : Chosen name (.string name)
  | keyed {content : Value} (empty : content = .table [] ∨ content = .array []) :
      Chosen name (.table [(name, content)])

def Setting.Says : (setting : Setting) → Value → setting.Content → Prop
  | .iterations, value, word | .inputSize, value, word => value = .integer word.toNat
  | .algorithm, value, choice => Chosen choice.name value
  | .path, value, place => ∃ text, value = .string text ∧ place = Path.ofString text
  | .format, value, choice => Chosen choice.name value
  | .enabled, value, switch => value = .boolean switch

/-- What is known for a setting has come from its section, and is what the section says of
it where the section is a table. -/
structure Setting.IsTaken (setting : Setting) (part : Value) (content : Option setting.Content) :
    Prop where
  required : setting.isRequired = true → content.isSome = true
  entry : ∀ entries, part = .table entries → Ordered entries →
    Option.Rel setting.Says (entries.lookup setting.key) content

namespace Document

def written? (root : List (String × Value)) (setting : Setting) : Option Value :=
  match root.lookup setting.header with
  | some (.table entries) => entries.lookup setting.key
  | _ => none

def HasTables (root : List (String × Value)) : Prop :=
  ∀ setting : Setting, ∀ content, root.lookup setting.header = some content →
    ∃ entries, content = .table entries

end Document

open Document (written? HasTables)

/-! ## Single values -/

namespace Decode

variable {α : Type} {value : Value}

theorem says_unsigned {expected : String} {word : UInt64}
    (hread : unsigned expected value = .ok word) : value = .integer word.toNat := by
  unfold unsigned at hread
  split at hread
  · rename_i number
    split at hread
    · rename_i hrange
      cases hread
      obtain ⟨hleast, hgreatest⟩ := hrange
      have hlimit : Nat.pow 2 64 = 18446744073709551616 := rfl
      have hword : (UInt64.ofNat number.toNat).toNat = number.toNat :=
        UInt64.toNat_ofNat_of_lt' (by simp only [UInt64.size]; omega)
      rw [hword, Int.toNat_of_nonneg hleast]
    · split at hread <;> cases hread
  · cases hread

theorem says_boolean {switch : Bool} (hread : boolean value = .ok switch) :
    value = .boolean switch := by
  cases value <;> cases hread
  rfl

theorem says_path {path : Path} (hread : Decode.path value = .ok path) :
    ∃ text, value = .string text ∧ path = Path.ofString text := by
  cases value <;> cases hread
  exact ⟨_, rfl, rfl⟩

theorem name_of_named {name : α → String} {choices : List α} {text : String} {result : α}
    (hread : named name choices text = .ok result) : name result = text := by
  unfold named at hread
  split at hread
  · rename_i hfound
    cases hread
    simpa [byName?] using List.find?_some hfound
  · cases hread

theorem says_choice {name : α → String} {choices : List α} {result : α}
    (hread : choice name choices value = .ok result) : Chosen (name result) value := by
  unfold choice at hread
  split at hread
  · rw [name_of_named hread]
    exact .named
  · obtain ⟨chosen, hchosen, hread⟩ := bind_eq_ok hread
    split at hread <;> cases hread
    · rw [name_of_named hchosen]
      exact .keyed (.inl rfl)
    · rw [name_of_named hchosen]
      exact .keyed (.inr rfl)
  · cases hread

/-! ## Sections -/

theorem tells_benchmark (setting : Setting) :
    Tells benchmarkShape setting.key (·.given setting) fun value content =>
      ∃ given, content = some given ∧ setting.Says value given := by
  intro field hfield value known next hread
  simp only [benchmarkShape, List.mem_cons, List.not_mem_nil, or_false] at hfield
  obtain rfl | rfl | rfl := hfield <;> obtain ⟨content, hcontent, hnext⟩ := bind_eq_ok hread <;>
    cases hnext <;> cases setting <;>
    first
    | rfl
    | exact ⟨_, rfl, says_unsigned hcontent⟩
    | exact ⟨_, rfl, says_choice hcontent⟩

theorem isTaken_benchmark {known : BenchmarkSection} (hread : benchmark value = .ok known)
    {setting : Setting} (hheader : setting.header = "benchmark") :
    setting.IsTaken value (known.given setting) where
  required := by cases setting <;> first | exact absurd hheader (by decide) | nofun
  entry := by
    rintro entries rfl hordered
    exact (tells_benchmark setting).rel hordered (by cases setting <;> rfl) hread

section

variable {β : Type} {name expected : String} {decode : Decoder β} {reads : Value → β → Prop}

theorem tells_single (build : β → α) (look : α → Option β)
    (htold : ∀ {value given}, decode value = .ok given → reads value given)
    (hlook : ∀ given, look (build given) = some given) :
    Tells ⟨[⟨name, fun value _ => do .ok (build (← decode value))⟩], expected⟩ name look
      fun value content => ∃ given, content = some given ∧ reads value given := by
  intro field hfield value known next hread
  obtain rfl := List.mem_singleton.mp hfield
  obtain ⟨given, hgiven, hnext⟩ := bind_eq_ok hread
  cases hnext
  rw [if_pos rfl]
  exact ⟨given, hlook given, htold hgiven⟩

theorem required_rel {shape : Shape (Option α)} {look : α → β} {known : α}
    {entries : List (String × Value)}
    (htells : Tells shape name (Option.map look) fun value content =>
      ∃ given, content = some given ∧ reads value given)
    (hordered : Ordered entries) (hread : required shape name (.table entries) = .ok known) :
    Option.Rel reads (entries.lookup name) (some (look known)) := by
  obtain ⟨result, hresult, hread⟩ := bind_eq_ok hread
  have hrel := htells.rel hordered rfl hresult
  cases result <;> cases hread
  exact hrel

end

theorem isTaken_input {known : InputSection} (hread : input value = .ok known) :
    Setting.path.IsTaken value known.path where
  required := nofun
  entry := by
    rintro entries rfl hordered
    exact (tells_single (InputSection.mk ∘ some) InputSection.path says_path fun _ => rfl).rel
      hordered rfl hread

theorem tells_report :
    Tells reportShape "format" (Option.map ReportSection.format) fun value content =>
      ∃ given, content = some given ∧ Setting.Says .format value given :=
  tells_single (some ∘ ReportSection.mk) _ says_choice fun _ => rfl

theorem isTaken_report {known : ReportSection} (hread : report value = .ok known) :
    Setting.format.IsTaken value (some known.format) where
  required := fun _ => rfl
  entry := by
    rintro entries rfl hordered
    exact required_rel tells_report hordered hread

theorem tells_monitoring :
    Tells monitoringShape "enabled" (Option.map MonitoringSection.enabled) fun value content =>
      ∃ given, content = some given ∧ Setting.Says .enabled value given :=
  tells_single (some ∘ MonitoringSection.mk) _ says_boolean fun _ => rfl

theorem isTaken_monitoring {known : MonitoringSection} (hread : monitoring value = .ok known) :
    Setting.enabled.IsTaken value (some known.enabled) where
  required := fun _ => rfl
  entry := by
    rintro entries rfl hordered
    exact required_rel tells_monitoring hordered hread

/-! ## Whole configurations -/

theorem tells_config (setting : Setting) :
    Tells configShape setting.header (·.given setting) setting.IsTaken := by
  intro field hfield value known next hread
  simp only [configShape, List.mem_cons, List.not_mem_nil, or_false] at hfield
  obtain rfl | rfl | rfl | rfl := hfield <;> obtain ⟨part, hpart, hnext⟩ := bind_eq_ok hread <;>
    cases hnext
  · cases setting <;> first | rfl | exact isTaken_benchmark hpart rfl
  · cases setting <;> first | rfl | exact isTaken_input hpart
  · cases setting <;> first | rfl | exact isTaken_report hpart
  · cases setting <;> first | rfl | exact isTaken_monitoring hpart

variable {root : List (String × Value)} {result : Config}

theorem rel_written (hroot : (Value.table root).IsOrdered) (htables : HasTables root)
    (hread : config (.table root) = .ok result) (setting : Setting) :
    Option.Rel setting.Says (written? root setting) (result.given setting) := by
  obtain ⟨hordered, hvalues⟩ := hroot.of_table
  obtain ⟨hnone, hsame⟩ | ⟨value, hvalue, hrel⟩ :=
    (tells_config setting).lookup_cases hordered hread
  · have hempty : Config.empty.given setting = none := by cases setting <;> rfl
    rw [written?, hnone, hsame, hempty]
    exact .none
  · obtain ⟨entries, rfl⟩ := htables setting value hvalue
    have hentries := (hvalues _ (Document.mem_of_lookup hvalue)).of_table.1
    rw [written?, hvalue]
    exact hrel.entry entries rfl hentries

end Decode

end SegmentBench
