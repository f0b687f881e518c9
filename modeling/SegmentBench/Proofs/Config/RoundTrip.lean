import SegmentBench.Proofs.Config.Optional
import SegmentBench.Proofs.Text.Utf8

/-!
# Configurations written out

A configuration is written as a document that has a header for each section and a line
for each key.  Whatever the order of the sections, and of the keys in each, reading the
document gives the configuration back.
-/

namespace SegmentBench

open Document

/-! ## What stands behind the equals signs -/

inductive Literal where
  | number (value : UInt64)
  | quoted (text : List Char)
  | switch (value : Bool)

namespace Literal

def text : Literal → List Char
  | .number value => Numeral.digits 10 value.toNat
  | .quoted text => '"' :: (text ++ ['"'])
  | .switch value => (if value then "true" else "false").toList

def value : Literal → Value
  | .number value => .integer value.toNat
  | .quoted text => .string (String.ofList text)
  | .switch value => .boolean value

/-- The text of a string needs no escapes and is no placeholder. -/
def IsSafe : Literal → Prop
  | .quoted text => IsPlain text ∧ '$' ∉ text
  | .number _ | .switch _ => True

theorem writes {literal : Literal} (hsafe : literal.IsSafe) :
    Writes literal.text literal.value := by
  cases literal with
  | number value =>
      have hlimit : (2 : Int) ^ 64 ≤ greatestInteger := by decide
      have hvalue := value.toNat_lt
      exact writes_digits (by omega)
  | quoted text => exact writes_quoted hsafe.1
  | switch value => exact writes_boolean value

theorem dollar_notMem {literal : Literal} (hsafe : literal.IsSafe) : '$' ∉ literal.text := by
  cases literal with
  | number value => exact fun hmem => (isNumeral_digits value.toNat).ne_of_mem hmem (by decide) rfl
  | quoted text => simpa [Literal.text] using hsafe.2
  | switch value => cases value <;> decide

end Literal

/-! ## Documents of sections -/

abbrev Part := String × List (String × Literal)

namespace Part

def texts (part : Part) : List (List Char) :=
  headerLine part.1 :: part.2.map fun entry => entryLine entry.1 entry.2.text

def lines (part : Part) : List Line :=
  .header part.1 :: part.2.map fun entry => .entry entry.1 entry.2.value

structure IsSafe (part : Part) : Prop where
  name : IsBare part.1.toList
  keys : ∀ entry ∈ part.2, IsBare entry.1.toList
  literals : ∀ entry ∈ part.2, entry.2.IsSafe

variable {part : Part}

theorem says_lines (hsafe : part.IsSafe) : List.Forall₂ Says part.texts part.lines := by
  refine .cons (says_header hsafe.name) ?_
  rw [List.forall₂_map_left_iff, List.forall₂_map_right_iff, List.forall₂_same]
  exact fun entry hmem =>
    says_entry (hsafe.keys entry hmem) (Literal.writes (hsafe.literals entry hmem))

theorem dollar_notMem (hsafe : part.IsSafe) : ∀ text ∈ part.texts, '$' ∉ text := by
  have hbare {name : String} (hname : IsBare name.toList) : '$' ∉ name.toList := fun hmem =>
    ne_of_satisfies (hname.bare _ hmem) (by decide) rfl
  rw [texts, List.forall_mem_cons, List.forall_mem_map]
  refine ⟨by simp [headerLine, hbare hsafe.name], fun entry hmem => ?_⟩
  have hliteral := Literal.dollar_notMem (hsafe.literals entry hmem)
  simp [entryLine, hbare (hsafe.keys entry hmem), hliteral]

end Part

namespace Config

def document (mark : List Char) (parts : List Part) : List Char :=
  (parts.flatMap Part.texts).flatMap (· ++ mark)

def values (parts : List Part) : List (String × List (String × Value)) :=
  mapValues (mapValues Literal.value) parts

variable {mark : List Char} {parts : List Part}

theorem flatMap_append_mark (mark : List Char) (texts : List (List Char)) :
    texts.flatMap (· ++ mark) = mark.intercalate (texts ++ [[]]) := by
  induction texts with
  | nil => simp
  | cons text texts ih =>
      rw [List.flatMap_cons, ih, List.cons_append, List.intercalate_cons_of_ne_nil (by simp)]

theorem says_parts (hsafe : ∀ part ∈ parts, Part.IsSafe part) :
    List.Forall₂ Says (parts.flatMap Part.texts ++ [[]])
      (parts.flatMap Part.lines ++ [.blank]) := by
  induction parts with
  | nil => exact .cons .nil .nil
  | cons part parts ih =>
      obtain ⟨hpart, hparts⟩ := List.forall_mem_cons.mp hsafe
      rw [List.flatMap_cons, List.flatMap_cons, List.append_assoc, List.append_assoc]
      exact List.rel_append (Part.says_lines hpart) (ih hparts)

theorem entriesAbove_entries (entries : List (String × Literal)) (rest : List Line) :
    entriesAbove (entries.map (fun entry => .entry entry.1 entry.2.value) ++ rest) =
      mapValues Literal.value entries ++ entriesAbove rest := by
  induction entries with
  | nil => rfl
  | cons entry entries ih => exact congrArg (List.cons (entry.1, entry.2.value)) ih

theorem sectionsOf_entries (entries : List (String × Literal)) (rest : List Line) :
    sectionsOf (entries.map (fun entry => .entry entry.1 entry.2.value) ++ rest) =
      sectionsOf rest := by
  induction entries with
  | nil => rfl
  | cons entry entries ih => exact ih

theorem entriesAbove_parts (parts : List Part) :
    entriesAbove (parts.flatMap Part.lines ++ [.blank]) = [] := by
  cases parts <;> rfl

theorem sectionsOf_parts (parts : List Part) :
    sectionsOf (parts.flatMap Part.lines ++ [.blank]) = values parts := by
  induction parts with
  | nil => rfl
  | cons part parts ih =>
      rw [List.flatMap_cons, List.append_assoc, Part.lines, List.cons_append, sectionsOf,
        entriesAbove_entries, sectionsOf_entries, entriesAbove_parts, ih, List.append_nil]
      rfl

theorem dollar_notMem_document (hmark : IsLineBreak mark)
    (hsafe : ∀ part ∈ parts, Part.IsSafe part) : '$' ∉ document mark parts := by
  have hmark : '$' ∉ mark := by
    obtain rfl | rfl := hmark <;> decide
  simp only [document, List.mem_flatMap, List.mem_append, not_exists, not_and, not_or]
  rintro text ⟨part, hpart, htext⟩
  exact ⟨Part.dollar_notMem (hsafe part hpart) text htext, hmark⟩

theorem ofText_document (environment : Environment) (hmark : IsLineBreak mark)
    (hsafe : ∀ part ∈ parts, Part.IsSafe part) (hdistinct : Distinct [] (values parts)) :
    ofText environment (document mark parts) =
      match Decode.config (.table (sorted (tables (values parts)))) with
      | .error fault => .error (.badDocument (.mismatch fault))
      | .ok config => .ok config := by
  have hplain : Placeholder.substitute environment (document mark parts) = document mark parts :=
    Placeholder.substitute_of_plain (dollar_notMem_document hmark hsafe)
  have htexts : document mark parts = mark.intercalate (parts.flatMap Part.texts ++ [[]]) :=
    flatMap_append_mark mark _
  rw [htexts] at hplain ⊢
  have hread := ofText_lines hmark hplain (says_parts hsafe)
    (by rwa [entriesAbove_parts, sectionsOf_parts])
  rwa [entriesAbove_parts, sectionsOf_parts, List.nil_append] at hread

/-! ## Configurations as parts -/

end Config

def Path.text (path : Path) : List Char := (Utf8.decode? path.bytes).getD []

/-- A path that can stand between double quotes as it is and is no placeholder. -/
def Path.IsWritable (path : Path) : Prop :=
  ∃ text, path = Path.ofString text ∧ IsPlain text.toList ∧ '$' ∉ text.toList

theorem Path.text_ofString (text : String) : (Path.ofString text).text = text.toList := by
  rw [Path.text, ofString, Utf8.decode?_encode, Option.getD_some]

def optional {α : Type} (key : String) (literal : α → Literal) : Option α → List (String × Literal)
  | none => []
  | some content => [(key, literal content)]

def BenchmarkSection.entries (known : BenchmarkSection) : List (String × Literal) :=
  optional "algorithm" (fun choice => .quoted choice.name.toList) known.algorithm ++
    optional "input_size" .number known.inputSize ++ optional "iterations" .number known.iterations

def InputSection.entries (known : InputSection) : List (String × Literal) :=
  optional "path" (fun path => .quoted path.text) known.path

def MonitoringSection.entries (known : MonitoringSection) : List (String × Literal) :=
  [("enabled", .switch known.enabled)]

def ReportSection.entries (known : ReportSection) : List (String × Literal) :=
  [("format", .quoted known.format.name.toList)]

namespace Config

def others (config : Config) : List Part :=
  (config.input.map fun known => ("input", known.entries)).toList ++
    (config.monitoring.map fun known => ("monitoring", known.entries)).toList ++
      (config.report.map fun known => ("report", known.entries)).toList

def parts (config : Config) : List Part := ("benchmark", config.benchmark.entries) :: config.others

end Config

/-! ## Reading them back -/

namespace Decode

theorem unsigned_toNat (expected : String) (number : UInt64) :
    unsigned expected (.integer number.toNat) = .ok number := by
  have hrange : (0 : Int) ≤ number.toNat ∧ (number.toNat : Int) < Nat.pow 2 64 := by
    have hnumber := number.toNat_lt
    have hlimit : Nat.pow 2 64 = 18446744073709551616 := rfl
    omega
  rw [unsigned, if_pos hrange, Int.toNat_natCast, UInt64.ofNat_toNat]

theorem algorithm_name (choice : Algorithm) : algorithm (.string choice.name) = .ok choice := by
  cases choice <;> rfl

theorem format_name (choice : ReportFormat) : format (.string choice.name) = .ok choice := by
  cases choice <;> rfl

theorem path_text {path : Path} (hwritable : path.IsWritable) :
    Decode.path (.string (String.ofList path.text)) = .ok path := by
  obtain ⟨text, rfl, -⟩ := hwritable
  rw [Path.text_ofString, String.ofList_toList, Decode.path]

theorem benchmark_entries (known : BenchmarkSection) :
    benchmark (.table (mapValues Literal.value known.entries)) = .ok known := by
  obtain ⟨iterations, inputSize, choice⟩ := known
  cases iterations <;> cases inputSize <;> cases choice <;>
    simp [BenchmarkSection.entries, optional, mapValues, Literal.value, benchmark, fields, entries,
      benchmarkShape, unsigned_toNat, algorithm_name, ok_bind]

theorem input_entries {known : InputSection} (hpath : ∀ path ∈ known.path, path.IsWritable) :
    input (.table (mapValues Literal.value known.entries)) = .ok known := by
  obtain ⟨_ | path⟩ := known
  · rfl
  · simp [InputSection.entries, optional, mapValues, Literal.value, input, fields, entries,
      inputShape, path_text (hpath path rfl), ok_bind]

theorem monitoring_entries (known : MonitoringSection) :
    monitoring (.table (mapValues Literal.value known.entries)) = .ok known := rfl

theorem report_entries (known : ReportSection) :
    report (.table (mapValues Literal.value known.entries)) = .ok known := by
  simp [ReportSection.entries, mapValues, Literal.value, report, required, fields, entries,
    reportShape, format_name, ok_bind]

theorem entries_toList {α β : Type} {shape : Shape α} {key : String} {field : Field α}
    {content : Option β} {write : β → Value} {known next : α}
    (hfield : shape.field? key = some field) (hnone : content = none → next = known)
    (hsome : ∀ given ∈ content, field.read (write given) known = .ok next) :
    entries shape known (content.toList.map fun given => (key, write given)) = .ok next := by
  cases content with
  | none => exact congrArg Except.ok (hnone rfl).symm
  | some given =>
      rw [Option.toList_some, List.map_singleton, entries_cons hfield, hsome given rfl]
      rfl

theorem values_others (config : Config) :
    mapValues Value.table (Config.values config.others) =
      (config.input.toList.map fun known =>
          ("input", .table (mapValues Literal.value known.entries))) ++
        ((config.monitoring.toList.map fun known =>
            ("monitoring", .table (mapValues Literal.value known.entries))) ++
          config.report.toList.map fun known =>
            ("report", .table (mapValues Literal.value known.entries))) := by
  obtain ⟨benchmark, input, report, monitoring⟩ := config
  cases input <;> cases monitoring <;> cases report <;> rfl

theorem config_others {config : Config} (hpath : ∀ path ∈ config.inputPath, path.IsWritable) :
    entries configShape { Config.empty with benchmark := config.benchmark }
      (mapValues Value.table (Config.values config.others)) = .ok config := by
  obtain ⟨benchmark, input, report, monitoring⟩ := config
  have hinput : entries configShape ⟨benchmark, none, none, none⟩
      (input.toList.map fun known => ("input", .table (mapValues Literal.value known.entries))) =
      .ok ⟨benchmark, input, none, none⟩ := by
    refine entries_toList rfl (fun hnone => by rw [hnone]) fun known hknown => ?_
    obtain rfl := Option.mem_def.mp hknown
    exact bind_ok_of_eq (input_entries hpath)
  have hmonitoring : entries configShape ⟨benchmark, input, none, none⟩
      (monitoring.toList.map fun known =>
        ("monitoring", .table (mapValues Literal.value known.entries))) =
      .ok ⟨benchmark, input, none, monitoring⟩ := by
    refine entries_toList rfl (fun hnone => by rw [hnone]) fun known hknown => ?_
    obtain rfl := Option.mem_def.mp hknown
    exact bind_ok_of_eq (monitoring_entries known)
  have hreport : entries configShape ⟨benchmark, input, none, monitoring⟩
      (report.toList.map fun known => ("report", .table (mapValues Literal.value known.entries))) =
      .ok ⟨benchmark, input, report, monitoring⟩ := by
    refine entries_toList rfl (fun hnone => by rw [hnone]) fun known hknown => ?_
    obtain rfl := Option.mem_def.mp hknown
    exact bind_ok_of_eq (report_entries known)
  rw [values_others, Config.empty, entries_append, hinput, ok_bind, entries_append, hmonitoring,
    ok_bind, hreport]

theorem config_parts {config : Config} (hpath : ∀ path ∈ config.inputPath, path.IsWritable) :
    Decode.config (.table (mapValues Value.table (Config.values config.parts))) = .ok config := by
  have hbenchmark : entries configShape Config.empty
      ((some config.benchmark).toList.map fun known =>
        ("benchmark", .table (mapValues Literal.value known.entries))) =
      .ok { Config.empty with benchmark := config.benchmark } := by
    refine entries_toList rfl (fun hnone => by cases hnone) fun known hknown => ?_
    obtain rfl := Option.some.inj hknown
    exact bind_ok_of_eq (benchmark_entries _)
  have hall := entries_append configShape Config.empty
    ((some config.benchmark).toList.map fun known =>
      ("benchmark", .table (mapValues Literal.value known.entries)))
    (mapValues Value.table (Config.values config.others))
  rw [hbenchmark, ok_bind, config_others hpath] at hall
  exact hall

end Decode

/-! ## Any order -/

structure Part.Reordered (first second : Part) : Prop where
  name : first.1 = second.1
  entries : first.2.Perm second.2

namespace Part.Reordered

variable {first second : Part}

theorem isSafe (horder : Reordered first second) (hsafe : first.IsSafe) : second.IsSafe where
  name := horder.name ▸ hsafe.name
  keys entry hmem := hsafe.keys entry (horder.entries.mem_iff.mpr hmem)
  literals entry hmem := hsafe.literals entry (horder.entries.mem_iff.mpr hmem)

theorem values_perm (horder : Reordered first second) :
    (mapValues Literal.value first.2).Perm (mapValues Literal.value second.2) :=
  horder.entries.map _

end Part.Reordered

namespace Config

/-- The same sections with the same keys, in any order. -/
def Rearranged (parts others : List Part) : Prop :=
  ∃ middle, List.Forall₂ Part.Reordered parts middle ∧ middle.Perm others

variable {parts others middle : List Part}

theorem forall_of_reordered {p : Part → Prop} (horder : List.Forall₂ Part.Reordered parts middle)
    (hkept : ∀ {first second : Part}, first.Reordered second → p first → p second)
    (hparts : ∀ part ∈ parts, p part) : ∀ part ∈ middle, p part := by
  induction horder with
  | nil => exact hparts
  | cons hfirst hrest ih =>
      obtain ⟨hhead, htail⟩ := List.forall_mem_cons.mp hparts
      exact List.forall_mem_cons.mpr ⟨hkept hfirst hhead, ih htail⟩

theorem distinct_values_iff :
    Distinct [] (values parts) ↔ (keys parts).Nodup ∧ ∀ part ∈ parts, (keys part.2).Nodup := by
  have hnames : keys (values parts) ++ keys ([] : List (String × Value)) = keys parts := by
    rw [values, keys_mapValues]
    exact List.append_nil _
  rw [Distinct, hnames, values, mapValues, List.forall_mem_map]
  simp only [keys_mapValues]

theorem names_of_reordered (horder : List.Forall₂ Part.Reordered parts middle) :
    keys middle = keys parts := by
  induction horder with
  | nil => rfl
  | cons hfirst hrest ih => exact congrArg₂ List.cons hfirst.name.symm ih

theorem tables_of_reordered (horder : List.Forall₂ Part.Reordered parts middle)
    (hbodies : ∀ part ∈ parts, (keys part.2).Nodup) :
    tables (values middle) = tables (values parts) := by
  induction horder with
  | nil => rfl
  | @cons first second parts middle hfirst hrest ih =>
      obtain ⟨hhead, htail⟩ := List.forall_mem_cons.mp hbodies
      have hbody : sorted (mapValues Literal.value second.2) =
          sorted (mapValues Literal.value first.2) :=
        sorted_congr hfirst.values_perm.symm (by rwa [keys_mapValues])
      have hentry : (second.1, Value.table (sorted (mapValues Literal.value second.2))) =
          (first.1, .table (sorted (mapValues Literal.value first.2))) := by
        rw [hfirst.name, hbody]
      exact congrArg₂ List.cons hentry (ih htail)

namespace Rearranged

theorem isSafe (hparts : Rearranged parts others) (hsafe : ∀ part ∈ parts, Part.IsSafe part) :
    ∀ part ∈ others, Part.IsSafe part := by
  obtain ⟨middle, horder, hperm⟩ := hparts
  intro part hmem
  exact forall_of_reordered horder Part.Reordered.isSafe hsafe part (hperm.mem_iff.mpr hmem)

theorem distinct (hparts : Rearranged parts others) (hdistinct : Distinct [] (values parts)) :
    Distinct [] (values others) := by
  obtain ⟨middle, horder, hperm⟩ := hparts
  obtain ⟨hnames, hbodies⟩ := distinct_values_iff.mp hdistinct
  have hkept {first second : Part} (hsame : first.Reordered second) :
      (keys first.2).Nodup → (keys second.2).Nodup :=
    (hsame.entries.map Prod.fst).nodup_iff.mp
  refine distinct_values_iff.mpr ⟨?_, fun part hmem => ?_⟩
  · rw [← names_of_reordered horder] at hnames
    exact (hperm.map Prod.fst).nodup_iff.mp hnames
  · exact forall_of_reordered horder hkept hbodies part (hperm.mem_iff.mpr hmem)

theorem sorted_eq (hparts : Rearranged parts others) (hdistinct : Distinct [] (values parts)) :
    sorted (tables (values others)) = sorted (tables (values parts)) := by
  obtain ⟨middle, horder, hperm⟩ := hparts
  obtain ⟨hnames, hbodies⟩ := distinct_values_iff.mp hdistinct
  rw [← tables_of_reordered horder hbodies]
  refine sorted_congr (hperm.symm.map _ |>.map _) ?_
  rw [tables, keys_mapValues, values, keys_mapValues, names_of_reordered horder]
  exact hnames

end Rearranged

/-! ## Configurations -/

section

variable {config : Config}

theorem isSafe_optional {α : Type} {key : String} {literal : α → Literal} {content : Option α}
    (hkey : IsBare key.toList) (hcontent : ∀ given ∈ content, (literal given).IsSafe) :
    ∀ entry ∈ optional key literal content, IsBare entry.1.toList ∧ entry.2.IsSafe := by
  cases content with
  | none => exact fun entry hmem => absurd hmem List.not_mem_nil
  | some given => exact List.forall_mem_singleton.mpr ⟨hkey, hcontent given rfl⟩

theorem isSafe_part {name : String} {entries : List (String × Literal)} (hname : IsBare name.toList)
    (hentries : ∀ entry ∈ entries, IsBare entry.1.toList ∧ entry.2.IsSafe) :
    Part.IsSafe (name, entries) :=
  ⟨hname, fun entry hmem => (hentries entry hmem).1, fun entry hmem => (hentries entry hmem).2⟩

theorem isSafe_single {name key : String} {literal : Literal} (hname : IsBare name.toList)
    (hkey : IsBare key.toList) (hliteral : literal.IsSafe) :
    Part.IsSafe (name, [(key, literal)]) :=
  isSafe_part hname (List.forall_mem_singleton.mpr ⟨hkey, hliteral⟩)

theorem isSafe_benchmark (known : BenchmarkSection) : Part.IsSafe ("benchmark", known.entries) := by
  refine isSafe_part ⟨by decide, by decide⟩ ?_
  simp only [BenchmarkSection.entries, List.forall_mem_append]
  refine ⟨⟨isSafe_optional ⟨by decide, by decide⟩ fun choice _ => ?_,
    isSafe_optional ⟨by decide, by decide⟩ fun _ _ => trivial⟩,
    isSafe_optional ⟨by decide, by decide⟩ fun _ _ => trivial⟩
  cases choice <;> exact ⟨by decide, by decide⟩

theorem isSafe_input {known : InputSection} (hpath : ∀ path ∈ known.path, path.IsWritable) :
    Part.IsSafe ("input", known.entries) := by
  refine isSafe_part ⟨by decide, by decide⟩ (isSafe_optional ⟨by decide, by decide⟩ ?_)
  intro path hmem
  obtain ⟨text, rfl, hplain, hdollar⟩ := hpath path hmem
  rw [Path.text_ofString]
  exact ⟨hplain, hdollar⟩

theorem isSafe_monitoring (known : MonitoringSection) :
    Part.IsSafe ("monitoring", known.entries) :=
  isSafe_single ⟨by decide, by decide⟩ ⟨by decide, by decide⟩ trivial

theorem isSafe_report (known : ReportSection) : Part.IsSafe ("report", known.entries) := by
  refine isSafe_single ⟨by decide, by decide⟩ ⟨by decide, by decide⟩ ?_
  cases known.format <;> exact ⟨by decide, by decide⟩

theorem isSafe_parts (hpath : ∀ path ∈ config.inputPath, path.IsWritable) :
    ∀ part ∈ config.parts, Part.IsSafe part := by
  obtain ⟨benchmark, input, report, monitoring⟩ := config
  simp only [Config.parts, others, List.forall_mem_cons, List.forall_mem_append,
    Option.mem_toList, Option.map_eq_some_iff]
  refine ⟨isSafe_benchmark benchmark, ⟨?_, ?_⟩, ?_⟩
  · rintro part ⟨known, rfl, rfl⟩
    exact isSafe_input hpath
  · rintro part ⟨known, -, rfl⟩
    exact isSafe_monitoring known
  · rintro part ⟨known, -, rfl⟩
    exact isSafe_report known

theorem ordered_parts (config : Config) : Ordered config.parts := by
  obtain ⟨benchmark, input, report, monitoring⟩ := config
  cases input <;> cases monitoring <;> cases report <;>
    simp [ordered_iff, keys, Config.parts, others, -String.lt_iff_ltb]

theorem ordered_benchmark (known : BenchmarkSection) : Ordered known.entries := by
  obtain ⟨iterations, inputSize, choice⟩ := known
  cases iterations <;> cases inputSize <;> cases choice <;>
    simp [ordered_iff, keys, BenchmarkSection.entries, optional, -String.lt_iff_ltb]

theorem ordered_bodies (config : Config) : ∀ part ∈ config.parts, Ordered part.2 := by
  have hsingle (entry : String × Literal) : Ordered [entry] := List.pairwise_singleton ..
  simp only [Config.parts, others, List.forall_mem_cons, List.forall_mem_append,
    Option.mem_toList, Option.map_eq_some_iff]
  refine ⟨ordered_benchmark config.benchmark, ⟨?_, ?_⟩, ?_⟩
  · rintro part ⟨⟨_ | path⟩, -, rfl⟩
    · exact .nil
    · exact hsingle _
  · rintro part ⟨known, -, rfl⟩
    exact hsingle _
  · rintro part ⟨known, -, rfl⟩
    exact hsingle _

inductive Chooses (config : Config) : List Part → Prop
  | all : Chooses config config.parts
  | bare (hbenchmark : config.benchmark = ⟨none, none, none⟩) : Chooses config config.others

theorem Chooses.sublist {parts : List Part} (hparts : Chooses config parts) :
    parts.Sublist config.parts := by
  cases hparts with
  | all => exact .refl _
  | bare hbenchmark => exact List.sublist_cons_self ..

theorem Chooses.distinct {parts : List Part} (hparts : Chooses config parts) :
    Distinct [] (values parts) := by
  refine distinct_values_iff.mpr ⟨?_, fun part hmem => ?_⟩
  · exact (ordered_parts config).nodup.sublist (hparts.sublist.map Prod.fst)
  · exact (ordered_bodies config part (hparts.sublist.subset hmem)).nodup

theorem Chooses.sorted_eq {parts : List Part} (hparts : Chooses config parts) :
    sorted (tables (values parts)) = mapValues Value.table (values parts) := by
  have hbodies : tables (values parts) = mapValues Value.table (values parts) := by
    simp only [tables, values, mapValues_mapValues]
    refine List.map_congr_left fun part hmem => ?_
    have hordered := ordered_bodies config part (hparts.sublist.subset hmem)
    dsimp only
    rw [sorted_of_ordered ((ordered_mapValues_iff _).mpr hordered)]
  have hordered : Ordered parts := (ordered_parts config).sublist hparts.sublist
  rw [hbodies, values, mapValues_mapValues]
  exact sorted_of_ordered ((ordered_mapValues_iff _).mpr hordered)

theorem Chooses.decode_eq {parts : List Part} (hparts : Chooses config parts)
    (hpath : ∀ path ∈ config.inputPath, path.IsWritable) :
    Decode.config (.table (sorted (tables (values parts)))) = .ok config := by
  rw [hparts.sorted_eq]
  cases hparts with
  | all => exact Decode.config_parts hpath
  | bare hbenchmark =>
      have hothers := Decode.config_others hpath
      rw [hbenchmark] at hothers
      exact hothers

/-- A document with the sections of a configuration, and with their keys, in any order is
read as that configuration. -/
theorem ofText_written (environment : Environment) (hmark : IsLineBreak mark)
    (hpath : ∀ path ∈ config.inputPath, path.IsWritable) {chosen parts : List Part}
    (hchosen : Chooses config chosen) (hparts : Rearranged chosen parts) :
    ofText environment (document mark parts) = .ok config := by
  have hsafe : ∀ part ∈ chosen, Part.IsSafe part := fun part hmem =>
    isSafe_parts hpath part (hchosen.sublist.subset hmem)
  have hdistinct := hchosen.distinct
  rw [ofText_document environment hmark (hparts.isSafe hsafe) (hparts.distinct hdistinct),
    hparts.sorted_eq hdistinct, hchosen.decode_eq hpath]

theorem ofText_written_swapped :
    let environment : Environment := fun _ => none
    let path := Path.ofString "a\x7b=] # 'b"
    let config : Config :=
      ⟨⟨some 18446744073709551615, none, some .classic⟩, some ⟨some path⟩, none, some ⟨true⟩⟩
    let parts : List Part :=
      [("monitoring", [("enabled", .switch true)]), ("input", [("path", .quoted path.text)]),
        ("benchmark", [("iterations", .number 18446744073709551615),
          ("algorithm", .quoted Algorithm.classic.name.toList)])]
    (∀ path ∈ config.inputPath, path.IsWritable) ∧ Chooses config config.parts ∧
      Rearranged config.parts parts ∧ ofText environment (document ['\n'] parts) = .ok config := by
  intro environment path config parts
  have hpath : ∀ path ∈ config.inputPath, path.IsWritable := by
    rintro _ ⟨⟩
    exact ⟨_, rfl, by decide, by decide⟩
  have hparts : Rearranged config.parts parts := by
    refine ⟨[parts[2], parts[1], parts[0]], ?_, ?_⟩
    · exact .cons ⟨rfl, .swap _ _ _⟩ (.cons ⟨rfl, .refl _⟩ (.cons ⟨rfl, .refl _⟩ .nil))
    · exact (List.reverse_perm parts)
  exact ⟨hpath, .all, hparts, ofText_written environment (.inl rfl) hpath .all hparts⟩

end

end Config

end SegmentBench
