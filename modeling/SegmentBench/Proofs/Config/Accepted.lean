import SegmentBench.Proofs.Config.Contents
import SegmentBench.Proofs.Config.RoundTrip

/-!
# Which documents are configurations

A document in which every section is a table is accepted exactly when it has no keys but
those of the settings, what stands under each of them says something, and no section is
without the key that it must have.  A key that is none of them is enough to refuse any
document, whatever else it holds.
-/

namespace SegmentBench

open Document (Value Ordered IsBare Writes Says headerLine entryLine written? HasTables)

namespace Document

/-- A key at the top that is the name of no section, or a key in the table of a section
that is none of its settings. -/
inductive HasStray (root : List (String × Value)) : Prop where
  | name {name : String} {content : Value} (entry : (name, content) ∈ root)
      (unknown : ∀ setting : Setting, setting.header ≠ name) : HasStray root
  | key {name key : String} {entries : List (String × Value)} {content : Value}
      (part : (name, .table entries) ∈ root) (entry : (key, content) ∈ entries)
      (unknown : ∀ setting : Setting, setting.header = name → setting.key ≠ key) :
      HasStray root

/-- What is written for the setting says something.  Where nothing is written, nothing has
to be, for the setting may be missing or its section is. -/
def IsReadable (root : List (String × Value)) (setting : Setting) : Prop :=
  match written? root setting with
  | some value => ∃ content, setting.Says value content
  | none => setting.isRequired = true → root.lookup setting.header = none

def IsEntryOf (name : String) (entry : String × Value) : Prop :=
  ∃ setting : Setting, setting.header = name ∧ setting.key = entry.1 ∧
    ∃ content, setting.Says entry.2 content

end Document

open Document (HasStray IsReadable IsEntryOf)

namespace Decode

variable {root entries : List (String × Value)} {result : Config}

/-! ## What is accepted -/

theorem exists_header {field : Field Config} (hfield : field ∈ configShape.fields) :
    ∃ setting : Setting, setting.header = field.name := by
  simp only [configShape, List.mem_cons, List.not_mem_nil, or_false] at hfield
  obtain rfl | rfl | rfl | rfl := hfield
  · exact ⟨.iterations, rfl⟩
  · exact ⟨.path, rfl⟩
  · exact ⟨.format, rfl⟩
  · exact ⟨.enabled, rfl⟩

theorem not_hasStray (hread : config (.table root) = .ok result) : ¬HasStray root := by
  rintro (⟨hentry, hunknown⟩ | ⟨hpart, hentry, hunknown⟩)
  · obtain ⟨first, second, rfl⟩ := List.append_of_mem hentry
    obtain ⟨field, -, -, hfield, -⟩ := exists_field hread
    obtain ⟨hmem, hname⟩ := Shape.field?_eq_some hfield
    obtain ⟨setting, hheader⟩ := exists_header hmem
    exact hunknown setting (hheader.trans hname)
  · obtain ⟨front, back, rfl⟩ := List.append_of_mem hpart
    obtain ⟨before, after, rfl⟩ := List.append_of_mem hentry
    obtain ⟨field, middle, next, hfield, -, hnext, -⟩ := exists_field hread
    obtain ⟨hmem, hname⟩ := Shape.field?_eq_some hfield
    obtain ⟨setting, hheader, hkey⟩ := exists_setting hmem hnext
    exact hunknown setting (hheader.trans hname) hkey

theorem isReadable (hroot : (Value.table root).IsOrdered) (htables : HasTables root)
    (hread : config (.table root) = .ok result) (setting : Setting) : IsReadable root setting := by
  have hrel := rel_written hroot htables hread setting
  unfold IsReadable
  cases hwritten : written? root setting with
  | some value =>
      rw [hwritten] at hrel
      generalize result.given setting = given at hrel
      cases hrel with
      | some htold => exact ⟨_, htold⟩
  | none =>
      intro hrequired
      obtain ⟨hnone, -⟩ | ⟨part, -, htaken⟩ :=
        (tells_config setting).lookup_cases hroot.of_table.1 hread
      · exact hnone
      · have hsome := htaken.required hrequired
        rw [hwritten] at hrel
        generalize result.given setting = given at hrel hsome
        cases hrel
        cases hsome

/-! ## Single values -/

theorem choice_eq {α : Type} {name : α → String} {choices : List α} {chosen : α} {value : Value}
    (hnamed : named name choices (name chosen) = .ok chosen)
    (hchosen : Chosen (name chosen) value) : choice name choices value = .ok chosen := by
  cases hchosen with
  | named => exact hnamed
  | keyed hempty =>
      rw [choice, hnamed, ok_bind]
      obtain rfl | rfl := hempty <;> rfl

theorem algorithm_eq {chosen : Algorithm} {value : Value} (hchosen : Chosen chosen.name value) :
    algorithm value = .ok chosen :=
  choice_eq (algorithm_name chosen) hchosen

theorem format_eq {chosen : ReportFormat} {value : Value} (hchosen : Chosen chosen.name value) :
    format value = .ok chosen :=
  choice_eq (format_name chosen) hchosen

/-! ## Sections -/

theorem exists_benchmark (hentries : ∀ entry ∈ entries, IsEntryOf "benchmark" entry) :
    ∃ part, benchmark (.table entries) = .ok part := by
  refine exists_entries (fun entry hmem => ?_) _
  obtain ⟨key, value⟩ := entry
  obtain ⟨setting, hheader, rfl, content, htold⟩ := hentries _ hmem
  cases setting with
  | iterations =>
      obtain rfl := htold
      exact ⟨_, rfl, fun known => ⟨_, bind_ok_of_eq (unsigned_toNat "u64" content)⟩⟩
  | inputSize =>
      obtain rfl := htold
      exact ⟨_, rfl, fun known => ⟨_, bind_ok_of_eq (unsigned_toNat "usize" content)⟩⟩
  | algorithm => exact ⟨_, rfl, fun known => ⟨_, bind_ok_of_eq (algorithm_eq htold)⟩⟩
  | path | format | enabled => exact absurd hheader (by decide)

theorem exists_input (hentries : ∀ entry ∈ entries, IsEntryOf "input" entry) :
    ∃ part, input (.table entries) = .ok part := by
  refine exists_entries (fun entry hmem => ?_) _
  obtain ⟨key, value⟩ := entry
  obtain ⟨setting, hheader, rfl, content, htold⟩ := hentries _ hmem
  cases setting with
  | path =>
      obtain ⟨text, rfl, -⟩ := htold
      exact ⟨_, rfl, fun known => ⟨_, rfl⟩⟩
  | iterations | inputSize | algorithm | format | enabled => exact absurd hheader (by decide)

theorem exists_required {α β : Type} {shape : Shape (Option α)} {name : String} {look : α → β}
    {reads : Value → β → Prop}
    (htells : Tells shape name (Option.map look) fun value content =>
      ∃ given, content = some given ∧ reads value given)
    (hordered : Ordered entries) (hfits : ∀ entry ∈ entries, Fits shape entry)
    (hgiven : entries.lookup name ≠ none) :
    ∃ part, required shape name (.table entries) = .ok part := by
  obtain ⟨read, hread⟩ := exists_entries hfits none
  have hfields : fields shape none (.table entries) = .ok read := hread
  have hrel := htells.rel hordered rfl hread
  rw [required, hfields, ok_bind]
  cases read with
  | some known => exact ⟨known, rfl⟩
  | none =>
      cases hlookup : entries.lookup name with
      | none => exact absurd hlookup hgiven
      | some value =>
          rw [hlookup] at hrel
          cases hrel

theorem exists_report (hordered : Ordered entries)
    (hentries : ∀ entry ∈ entries, IsEntryOf "report" entry)
    (hgiven : entries.lookup "format" ≠ none) : ∃ part, report (.table entries) = .ok part := by
  refine exists_required tells_report hordered (fun entry hmem => ?_) hgiven
  obtain ⟨key, value⟩ := entry
  obtain ⟨setting, hheader, rfl, content, htold⟩ := hentries _ hmem
  cases setting with
  | format => exact ⟨_, rfl, fun known => ⟨_, bind_ok_of_eq (format_eq htold)⟩⟩
  | iterations | inputSize | algorithm | path | enabled => exact absurd hheader (by decide)

theorem exists_monitoring (hordered : Ordered entries)
    (hentries : ∀ entry ∈ entries, IsEntryOf "monitoring" entry)
    (hgiven : entries.lookup "enabled" ≠ none) :
    ∃ part, monitoring (.table entries) = .ok part := by
  refine exists_required tells_monitoring hordered (fun entry hmem => ?_) hgiven
  obtain ⟨key, value⟩ := entry
  obtain ⟨setting, hheader, rfl, content, htold⟩ := hentries _ hmem
  cases setting with
  | enabled =>
      obtain rfl := htold
      exact ⟨_, rfl, fun known => ⟨_, rfl⟩⟩
  | iterations | inputSize | algorithm | path | format => exact absurd hheader (by decide)

/-! ## Whole configurations -/

theorem fits_section {setting : Setting} (hordered : Ordered entries)
    (hentries : ∀ entry ∈ entries, IsEntryOf setting.header entry)
    (hgiven : setting.isRequired = true → entries.lookup setting.key ≠ none) :
    Fits configShape (setting.header, .table entries) := by
  cases setting with
  | iterations | inputSize | algorithm =>
      obtain ⟨part, hpart⟩ := exists_benchmark hentries
      exact ⟨_, rfl, fun known => ⟨_, bind_ok_of_eq hpart⟩⟩
  | path =>
      obtain ⟨part, hpart⟩ := exists_input hentries
      exact ⟨_, rfl, fun known => ⟨_, bind_ok_of_eq hpart⟩⟩
  | format =>
      obtain ⟨part, hpart⟩ := exists_report hordered hentries (hgiven rfl)
      exact ⟨_, rfl, fun known => ⟨_, bind_ok_of_eq hpart⟩⟩
  | enabled =>
      obtain ⟨part, hpart⟩ := exists_monitoring hordered hentries (hgiven rfl)
      exact ⟨_, rfl, fun known => ⟨_, bind_ok_of_eq hpart⟩⟩

theorem exists_config (hroot : (Value.table root).IsOrdered) (htables : HasTables root)
    (hclean : ¬HasStray root) (hreadable : ∀ setting, IsReadable root setting) :
    ∃ result, config (.table root) = .ok result := by
  obtain ⟨hordered, hvalues⟩ := hroot.of_table
  refine exists_entries (fun entry hmem => ?_) _
  obtain ⟨name, content⟩ := entry
  obtain ⟨setting, rfl⟩ : ∃ setting : Setting, setting.header = name := by
    by_contra hunknown
    exact hclean (.name hmem (not_exists.mp hunknown))
  have hlookup := hordered.lookup_eq hmem
  obtain ⟨entries, rfl⟩ := htables setting content hlookup
  have hinner := (hvalues _ hmem).of_table.1
  have hwritten {other : Setting} (hheader : other.header = setting.header) :
      written? root other = entries.lookup other.key := by
    rw [written?, hheader, hlookup]
  refine fits_section hinner (fun entry hentry => ?_) fun hrequired hmissing => ?_
  · obtain ⟨key, value⟩ := entry
    obtain ⟨other, hheader, rfl⟩ :
        ∃ other : Setting, other.header = setting.header ∧ other.key = key := by
      by_contra hunknown
      exact hclean (.key hmem hentry fun other hheader hkey => hunknown ⟨other, hheader, hkey⟩)
    have htold := hreadable other
    rw [IsReadable, hwritten hheader, hinner.lookup_eq hentry] at htold
    exact ⟨other, hheader, rfl, htold⟩
  · have hnone := hreadable setting
    rw [IsReadable, hwritten rfl, hmissing] at hnone
    rw [hnone hrequired] at hlookup
    cases hlookup

end Decode

namespace Config

variable {environment : Environment} {text : List Char} {content : Value}

/-- A document with an unknown key is refused.  Where the sections are tables, nothing else
is refused but what says nothing or lacks a key that must be there, and what is accepted has
each setting as it is written, and none that is not written. -/
theorem ofText_strict
    (hread : Document.read (Placeholder.substitute environment text) = .ok content) :
    ∃ root, content = .table root ∧ content.IsOrdered ∧
      (HasStray root →
        ∃ fault, ofText environment text = .error (.badDocument (.mismatch fault))) ∧
      (HasTables root →
        ((∃ config, ofText environment text = .ok config) ↔
          ¬HasStray root ∧ ∀ setting, IsReadable root setting) ∧
        ∀ config, ofText environment text = .ok config → ∀ setting,
          Option.Rel setting.Says (written? root setting) (config.given setting)) := by
  obtain ⟨root, rfl, hordered⟩ := Document.isOrdered_read hread
  have haccepted (config : Config) :
      ofText environment text = .ok config ↔ Decode.config (.table root) = .ok config := by
    rw [ofText_of_read hread]
    cases Decode.config (.table root) <;> simp
  refine ⟨root, rfl, hordered, fun hstray => ?_, fun htables => ⟨⟨?_, ?_⟩, ?_⟩⟩
  · cases hdecode : Decode.config (.table root) with
    | error fault => exact ⟨fault, by rw [ofText_of_read hread, hdecode]⟩
    | ok config => exact absurd hstray (Decode.not_hasStray hdecode)
  · rintro ⟨config, hok⟩
    have hdecode := (haccepted config).mp hok
    exact ⟨Decode.not_hasStray hdecode, Decode.isReadable hordered htables hdecode⟩
  · rintro ⟨hclean, hreadable⟩
    obtain ⟨config, hdecode⟩ := Decode.exists_config hordered htables hclean hreadable
    exact ⟨config, (haccepted config).mpr hdecode⟩
  · intro config hok
    exact Decode.rel_written hordered htables ((haccepted config).mp hok)

theorem ofText_strict_iterations :
    let environment : Environment := fun _ => none
    let text (key : String) : List Char :=
      ['\n'].intercalate [headerLine "benchmark", entryLine key ['5']]
    let root (key : String) : List (String × Value) :=
      [("benchmark", .table [(key, .integer 5)])]
    let config : Config := ⟨⟨some 5, none, none⟩, none, none, none⟩
    ofText environment (text "iterations") = .ok config ∧
      (∀ setting : Setting,
        Option.Rel setting.Says (written? (root "iterations") setting) (config.given setting)) ∧
      (∀ setting, IsReadable (root "iterations") setting) ∧
      ∃ fault, ofText environment (text "iteration") = .error (.badDocument (.mismatch fault)) := by
  intro environment text root config
  have hfive : Writes ['5'] (.integer 5) := ⟨rfl, by rintro c ⟨⟩; decide⟩
  have hnone : ∀ text ∈ ([] : List (List Char)), Says text .blank := List.forall_mem_nil _
  have hread (key : String) (hbare : IsBare key.toList) (hclosed : '\x7d' ∉ text key) :
      Document.read (Placeholder.substitute environment (text key)) = .ok (.table (root key)) := by
    rw [Placeholder.substitute_of_unclosed hclosed]
    have hname : IsBare "benchmark".toList := ⟨by decide, by decide⟩
    have hsingle := Document.read_single (.inl rfl) hname hbare hfive hnone hnone hnone
    rwa [List.nil_append, List.nil_append] at hsingle
  have hgiven := hread "iterations" ⟨by decide, by decide⟩ (by decide)
  have hstray := hread "iteration" ⟨by decide, by decide⟩ (by decide)
  have htables : HasTables (root "iterations") := fun setting content hcontent =>
    ⟨_, congrArg Prod.snd (List.mem_singleton.mp (Document.mem_of_lookup hcontent))⟩
  have haccepted : ofText environment (text "iterations") = .ok config :=
    (ofText_of_read hgiven).trans rfl
  refine ⟨haccepted, ?_, ?_, ?_⟩
  · obtain ⟨_, ⟨⟩, -, -, hstrict⟩ := ofText_strict hgiven
    exact (hstrict htables).2 config haccepted
  · obtain ⟨_, ⟨⟩, -, -, hstrict⟩ := ofText_strict hgiven
    exact ((hstrict htables).1.mp ⟨config, haccepted⟩).2
  · obtain ⟨_, ⟨⟩, -, hrefused, -⟩ := ofText_strict hstray
    refine hrefused (.key List.mem_cons_self List.mem_cons_self fun setting _ => ?_)
    cases setting <;> decide

end Config

end SegmentBench
