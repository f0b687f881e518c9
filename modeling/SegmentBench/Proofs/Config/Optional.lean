import SegmentBench.Config.Load
import SegmentBench.Proofs.Config.Fields
import SegmentBench.Proofs.Config.Placeholder
import SegmentBench.Proofs.Document.Written
import SegmentBench.Proofs.Text.Words

/-!
# Configurations with a key less

A document that is accepted may lose the line of any key that may be missing, and then
means the same configuration without that key.  The format of the report and the switch
of the monitoring may not be missing once their section has begun.
-/

namespace SegmentBench

open Document (Value Ordered)

/-! ## The keys of a configuration -/

inductive Setting where
  | iterations
  | inputSize
  | algorithm
  | path
  | format
  | enabled
  deriving DecidableEq, Repr

namespace Setting

def header : Setting → String
  | .iterations | .inputSize | .algorithm => "benchmark"
  | .path => "input"
  | .format => "report"
  | .enabled => "monitoring"

def key : Setting → String
  | .iterations => "iterations"
  | .inputSize => "input_size"
  | .algorithm => "algorithm"
  | .path => "path"
  | .format => "format"
  | .enabled => "enabled"

def isRequired : Setting → Bool
  | .format | .enabled => true
  | .iterations | .inputSize | .algorithm | .path => false

end Setting

def BenchmarkSection.without (known : BenchmarkSection) : Setting → BenchmarkSection
  | .iterations => { known with iterations := none }
  | .inputSize => { known with inputSize := none }
  | .algorithm => { known with algorithm := none }
  | .path | .format | .enabled => known

def Config.without (config : Config) : Setting → Config
  | .iterations => { config with benchmark := config.benchmark.without .iterations }
  | .inputSize => { config with benchmark := config.benchmark.without .inputSize }
  | .algorithm => { config with benchmark := config.benchmark.without .algorithm }
  | .path => { config with input := config.input.map fun _ => ⟨none⟩ }
  | .format => { config with report := none }
  | .enabled => { config with monitoring := none }

/-! ## Decoding -/

namespace Decode

theorem keeps_without (setting : Setting) :
    Keeps configShape setting.header (·.without setting) := by
  intro field hfield hne value known
  simp only [configShape, List.mem_cons, List.not_mem_nil, or_false] at hfield
  obtain rfl | rfl | rfl | rfl := hfield <;> refine bind_ok_map fun content => ?_ <;>
    cases setting <;> first | rfl | exact absurd rfl hne

theorem keeps_benchmark (setting : Setting) :
    Keeps benchmarkShape setting.key (·.without setting) := by
  intro field hfield hne value known
  simp only [benchmarkShape, List.mem_cons, List.not_mem_nil, or_false] at hfield
  obtain rfl | rfl | rfl := hfield <;> refine bind_ok_map fun content => ?_ <;>
    cases setting <;> first | rfl | exact absurd rfl hne

theorem forgets_benchmark (setting : Setting) :
    Forgets benchmarkShape setting.key (·.without setting) := by
  intro field hfield hname value known next hread
  simp only [benchmarkShape, List.mem_cons, List.not_mem_nil, or_false] at hfield
  obtain rfl | rfl | rfl := hfield <;>
    refine change_eq_of_bind_ok (·.without setting) (fun content => ?_) hread <;>
    cases setting <;> first | rfl | simp [Setting.key] at hname

section

variable {before after : List (String × Value)} {value : Value}

theorem benchmark_without {setting : Setting} {known : BenchmarkSection}
    (hordered : Ordered (before ++ (setting.key, value) :: after))
    (hread : benchmark (.table (before ++ (setting.key, value) :: after)) = .ok known) :
    benchmark (.table (before ++ after)) = .ok (known.without setting) :=
  fields_erase (keeps_benchmark setting) (forgets_benchmark setting) (by cases setting <;> rfl)
    hordered hread

theorem input_without {known : InputSection}
    (hordered : Ordered (before ++ ("path", value) :: after))
    (hread : input (.table (before ++ ("path", value) :: after)) = .ok known) :
    input (.table (before ++ after)) = .ok ⟨none⟩ :=
  fields_erase_only inputShape rfl hordered hread

theorem required_without {α : Type} (shape : Shape (Option α)) {field : Field (Option α)}
    {key : String} {known : α} (hfields : shape.fields = [field]) (hkey : field.name = key)
    (hordered : Ordered (before ++ (key, value) :: after))
    (hread : required shape key (.table (before ++ (key, value) :: after)) = .ok known) :
    required shape key (.table (before ++ after)) = .error (.missingField key) := by
  subst hkey
  obtain ⟨result, hresult, -⟩ := bind_eq_ok hread
  rw [required, fields_erase_only shape hfields hordered hresult]
  rfl

theorem read_without (setting : Setting) {field : Field Config}
    (hfield : field ∈ configShape.fields) (hname : field.name = setting.header)
    {middle next : Config} (hordered : Ordered (before ++ (setting.key, value) :: after))
    (hread : field.read (.table (before ++ (setting.key, value) :: after)) middle = .ok next) :
    field.read (.table (before ++ after)) middle =
      if setting.isRequired then .error (.missingField setting.key)
      else .ok (next.without setting) := by
  simp only [configShape, List.mem_cons, List.not_mem_nil, or_false] at hfield
  obtain rfl | rfl | rfl | rfl := hfield <;> obtain ⟨known, hknown, hnext⟩ := bind_eq_ok hread <;>
    cases hnext
  · dsimp only
    rw [benchmark_without hordered hknown, ok_bind]
    cases setting <;> first | rfl | exact absurd hname (by decide)
  · obtain rfl : setting = .path := by
      cases setting <;> first | rfl | exact absurd hname (by decide)
    dsimp only
    rw [input_without hordered hknown]
    rfl
  · obtain rfl : setting = .format := by
      cases setting <;> first | rfl | exact absurd hname (by decide)
    dsimp only
    rw [report, required_without reportShape rfl rfl hordered hknown]
    rfl
  · obtain rfl : setting = .enabled := by
      cases setting <;> first | rfl | exact absurd hname (by decide)
    dsimp only
    rw [monitoring, required_without monitoringShape rfl rfl hordered hknown]
    rfl

theorem exists_name {α : Type} {shape : Shape α} {known result : α} {key : String}
    (hread : fields shape known (.table (before ++ (key, value) :: after)) = .ok result) :
    key ∈ shape.names := by
  obtain ⟨field, -, -, hfield, -⟩ := exists_field hread
  obtain ⟨hmem, rfl⟩ := Shape.field?_eq_some hfield
  exact List.mem_map_of_mem hmem

theorem exists_setting {key : String} {field : Field Config} (hfield : field ∈ configShape.fields)
    {middle next : Config}
    (hread : field.read (.table (before ++ (key, value) :: after)) middle = .ok next) :
    ∃ setting : Setting, setting.header = field.name ∧ setting.key = key := by
  simp only [configShape, List.mem_cons, List.not_mem_nil, or_false] at hfield
  obtain rfl | rfl | rfl | rfl := hfield <;> obtain ⟨known, hknown, -⟩ := bind_eq_ok hread
  · have hkey : key ∈ benchmarkShape.names := exists_name hknown
    simp only [Shape.names, benchmarkShape, List.map_cons, List.map_nil, List.mem_cons,
      List.not_mem_nil, or_false] at hkey
    obtain rfl | rfl | rfl := hkey
    · exact ⟨.iterations, rfl, rfl⟩
    · exact ⟨.inputSize, rfl, rfl⟩
    · exact ⟨.algorithm, rfl, rfl⟩
  · have hkey : key ∈ inputShape.names := exists_name hknown
    exact ⟨.path, rfl, (List.mem_singleton.mp hkey).symm⟩
  · obtain ⟨section?, hfields, -⟩ := bind_eq_ok hknown
    have hkey : key ∈ reportShape.names := exists_name hfields
    exact ⟨.format, rfl, (List.mem_singleton.mp hkey).symm⟩
  · obtain ⟨section?, hfields, -⟩ := bind_eq_ok hknown
    have hkey : key ∈ monitoringShape.names := exists_name hfields
    exact ⟨.enabled, rfl, (List.mem_singleton.mp hkey).symm⟩

theorem config_without {front back : List (String × Value)} {name key : String} {config : Config}
    (houter : Ordered (front ++ (name, .table (before ++ (key, value) :: after)) :: back))
    (hinner : Ordered (before ++ (key, value) :: after))
    (hread : Decode.config
      (.table (front ++ (name, .table (before ++ (key, value) :: after)) :: back)) = .ok config) :
    ∃ setting : Setting, setting.header = name ∧ setting.key = key ∧
      Decode.config (.table (front ++ (name, .table (before ++ after)) :: back)) =
        if setting.isRequired then .error (.missingField key)
        else .ok (config.without setting) := by
  obtain ⟨field, middle, next, hfield, -, hnext, -⟩ := exists_field hread
  obtain ⟨hmem, hname⟩ := Shape.field?_eq_some hfield
  obtain ⟨setting, hheader, rfl⟩ := exists_setting hmem hnext
  obtain rfl : setting.header = name := hheader.trans hname
  refine ⟨setting, rfl, rfl, ?_⟩
  cases hrequired : setting.isRequired with
  | true =>
      refine entries_replace_error hread fun field hmem hname middle next hnext => ?_
      rw [read_without setting hmem hname hinner hnext, if_pos hrequired]
  | false =>
      refine entries_replace (keeps_without setting) houter.notMem_keys.2 hread
        fun field hmem hname middle next hnext => ?_
      rw [read_without setting hmem hname hinner hnext, hrequired]
      rfl

end

end Decode

/-! ## Placeholders within lines -/

namespace Placeholder

open Document (IsLineBreak)

variable {environment : Environment} {mark : List Char} {texts : List (List Char)}

/-- The placeholders of a document are replaced line by line. -/
def Linewise (environment : Environment) (mark : List Char) (texts : List (List Char)) : Prop :=
  substitute environment (mark.intercalate texts) =
    mark.intercalate (texts.map (substitute environment))

theorem substitute_mark_append (hmark : IsLineBreak mark) (rest : List Char) :
    substitute environment (mark ++ rest) = mark ++ substitute environment rest := by
  obtain rfl | rfl := hmark <;> simp [substitute, pieces, Piece.value]

theorem intercalate_cons {first : List Char} (hnonempty : texts ≠ []) :
    mark.intercalate (first :: texts) = first ++ (mark ++ mark.intercalate texts) := by
  rw [List.intercalate_cons_of_ne_nil hnonempty, List.append_assoc]

theorem notMem_mark_append (hmark : IsLineBreak mark) (hclosed : ∀ text ∈ texts, '\x7d' ∉ text) :
    '\x7d' ∉ mark ++ mark.intercalate texts := by
  have hbrace : '\x7d' ∉ mark := by
    obtain rfl | rfl := hmark <;> decide
  rw [List.mem_append, not_or]
  exact ⟨hbrace, notMem_intercalate hbrace hclosed⟩

/-- An opening that a line leaves is harmless where no later line could close it. -/
theorem linewise (environment : Environment) (hmark : IsLineBreak mark)
    (hclosed : texts.Pairwise fun text later => LeavesOpen text → '\x7d' ∉ later) :
    Linewise environment mark texts := by
  induction texts with
  | nil => exact substitute_of_unclosed (by simp)
  | cons text rest ih =>
      obtain ⟨hlater, hrest⟩ := List.pairwise_cons.mp hclosed
      obtain rfl | hnonempty := eq_or_ne rest []
      · simp [Linewise]
      rw [Linewise, List.map_cons, intercalate_cons hnonempty,
        intercalate_cons (by simpa using hnonempty)]
      by_cases hopen : LeavesOpen text
      · -- from the opening on nothing is replaced
        have hsame : rest.map (substitute environment) = rest := by
          refine (List.map_congr_left fun later hmem => ?_).trans rest.map_id
          exact substitute_of_unclosed (hlater later hmem hopen)
        have hbehind := notMem_mark_append hmark fun later hmem => hlater later hmem hopen
        obtain ⟨before, start, hleft⟩ := hopen.exists_leftOpen
        rw [(hleft.append hbehind).substitute_eq, hleft.substitute_eq, hsame]
        simp
      · have hhead : (mark ++ mark.intercalate rest).head? ≠ some '\x7b' := by
          obtain rfl | rfl := hmark <;> simp
        rw [substitute_append hopen hhead, substitute_mark_append hmark, ih hrest]

end Placeholder

/-! ## Documents without one of their lines -/

namespace Config

open Document
open Placeholder (Linewise substitute)

theorem forall₂_eraseIdx {α β : Type} {related : α → β → Prop} {first : List α} {second : List β}
    (hrelated : List.Forall₂ related first second) (index : Nat) :
    List.Forall₂ related (first.eraseIdx index) (second.eraseIdx index) := by
  induction hrelated generalizing index with
  | nil => exact .nil
  | cons hhead hrest ih =>
      cases index with
      | zero => exact hrest
      | succ index => exact .cons hhead (ih index)

theorem ofText_of_read {environment : Environment} {text : List Char} {content : Value}
    (hread : Document.read (substitute environment text) = .ok content) :
    ofText environment text =
      match Decode.config content with
      | .error fault => .error (.badDocument (.mismatch fault))
      | .ok config => .ok config := by
  cases hconfig : Decode.config content with
  | error fault => simp only [ofText, hread, hconfig]
  | ok config => simp only [ofText, hread, hconfig]

theorem ofText_lines {environment : Environment} {mark : List Char} {texts : List (List Char)}
    {lines : List Line} (hmark : IsLineBreak mark)
    (hplain : substitute environment (mark.intercalate texts) = mark.intercalate texts)
    (hlines : List.Forall₂ Says texts lines)
    (hdistinct : Distinct (entriesAbove lines) (sectionsOf lines)) :
    ofText environment (mark.intercalate texts) =
      match Decode.config (.table (sorted (entriesAbove lines ++ tables (sectionsOf lines)))) with
      | .error fault => .error (.badDocument (.mismatch fault))
      | .ok config => .ok config := by
  have hread := (read_lines_iff hmark hlines).mpr ⟨hdistinct, rfl⟩
  rw [← hplain] at hread
  exact ofText_of_read hread

theorem exists_read {environment : Environment} {text : List Char} {config : Config}
    (haccepted : ofText environment text = .ok config) :
    ∃ content, Document.read (substitute environment text) = .ok content ∧
      Decode.config content = .ok config := by
  cases hread : Document.read (substitute environment text) with
  | error fault =>
      rw [ofText, hread] at haccepted
      cases haccepted
  | ok content =>
      rw [ofText_of_read hread] at haccepted
      cases hdecode : Decode.config content with
      | error fault =>
          rw [hdecode] at haccepted
          cases haccepted
      | ok config =>
          rw [hdecode] at haccepted
          cases haccepted
          exact ⟨content, rfl, hdecode⟩

/-- A key's line can be taken out of an accepted document unless its section cannot stand
without the key. -/
theorem ofText_eraseIdx {environment : Environment} {mark : List Char} {texts : List (List Char)}
    {lines : List Line} {index : Nat} {name key : String} {value : Value} {config : Config}
    (hmark : IsLineBreak mark)
    (hlines : List.Forall₂ (fun text line => Says (substitute environment text) line) texts lines)
    (hline : lines[index]? = some (.entry key value))
    (hheader : lastHeader? (lines.take index) = some name)
    (hwhole : Linewise environment mark texts)
    (hrest : Linewise environment mark (texts.eraseIdx index))
    (haccepted : ofText environment (mark.intercalate texts) = .ok config) :
    ∃ setting : Setting, setting.header = name ∧ setting.key = key ∧
      ofText environment (mark.intercalate (texts.eraseIdx index)) =
        if setting.isRequired then .error (.badDocument (.mismatch (.missingField key)))
        else .ok (config.without setting) := by
  obtain ⟨content, hread, hdecode⟩ := exists_read haccepted
  rw [hwhole] at hread
  have hreplaced := List.forall₂_map_left_iff.mpr hlines
  obtain ⟨front, back, before, after, houter, hinner, rfl, hless⟩ :=
    Document.exists_read_split hmark hreplaced hline hheader hread
  obtain ⟨setting, hname, hkey, hwithout⟩ := Decode.config_without houter hinner hdecode
  have hothers := List.forall₂_map_left_iff.mpr (forall₂_eraseIdx hlines index)
  have hreadRest := hless _ hothers
  rw [← hrest] at hreadRest
  refine ⟨setting, hname, hkey, ?_⟩
  rw [ofText_of_read hreadRest, hwithout]
  cases setting.isRequired <;> rfl

theorem ofText_eraseIdx_iterations :
    let environment : Environment := fun _ => none
    let texts :=
      [headerLine "benchmark", entryLine "iterations" ['5'], entryLine "input_size" ['7']]
    let config : Config := ⟨⟨some 5, some 7, none⟩, none, none, none⟩
    ofText environment (['\n'].intercalate texts) = .ok config ∧
      ofText environment (['\n'].intercalate (texts.eraseIdx 1)) =
        .ok (config.without .iterations) := by
  intro environment texts config
  let lines : List Line := [.header "benchmark", .entry "iterations" (.integer 5),
    .entry "input_size" (.integer 7)]
  have hmark : IsLineBreak ['\n'] := .inl rfl
  have hfive : Writes ['5'] (.integer 5) := ⟨rfl, by rintro c ⟨⟩; decide⟩
  have hseven : Writes ['7'] (.integer 7) := ⟨rfl, by rintro c ⟨⟩; decide⟩
  have hlines : List.Forall₂ Says texts lines :=
    .cons (says_header ⟨by decide, by decide⟩) (.cons (says_entry ⟨by decide, by decide⟩ hfive)
      (.cons (says_entry ⟨by decide, by decide⟩ hseven) .nil))
  have hunclosed : ∀ text ∈ texts, '\x7d' ∉ text := by decide
  have hclosed : texts.Pairwise fun text later => Placeholder.LeavesOpen text → '\x7d' ∉ later :=
    List.pairwise_of_forall_mem_list fun _ _ later hlater _ => hunclosed later hlater
  have hrest : Linewise environment ['\n'] (texts.eraseIdx 1) :=
    Placeholder.linewise environment hmark (hclosed.sublist (List.eraseIdx_sublist ..))
  have hsame : texts.map (substitute environment) = texts :=
    (List.map_congr_left fun text htext =>
      Placeholder.substitute_of_unclosed (hunclosed text htext)).trans texts.map_id
  have hreplaced := List.forall₂_map_left_iff.mp (hsame.symm ▸ hlines)
  have haccepted : ofText environment (['\n'].intercalate texts) = .ok config :=
    (ofText_lines hmark (Placeholder.substitute_of_unclosed (by decide)) hlines
      ⟨by decide, by decide⟩).trans rfl
  refine ⟨haccepted, ?_⟩
  have hline : lines[1]? = some (.entry "iterations" (.integer 5)) := rfl
  obtain ⟨setting, -, hkey, hless⟩ := ofText_eraseIdx hmark hreplaced hline rfl
    (Placeholder.linewise environment hmark hclosed) hrest haccepted
  obtain rfl : setting = .iterations := by
    cases setting <;> first | rfl | exact absurd hkey (by decide)
  exact hless

/-- A report section is refused without its format, the only thing it told. -/
theorem ofText_report_alone :
    let environment : Environment := fun _ => none
    let texts := [headerLine "report", entryLine "format" "\"json\"".toList]
    let config : Config := ⟨⟨none, none, none⟩, none, some ⟨.json⟩, none⟩
    ofText environment (['\n'].intercalate texts) = .ok config ∧
      ofText environment (['\n'].intercalate (texts.eraseIdx 1)) =
        .error (.badDocument (.mismatch (.missingField "format"))) ∧
      config.without .format = Config.empty := by
  intro environment texts config
  have hmark : IsLineBreak ['\n'] := .inl rfl
  have hheader : Says (headerLine "report") (.header "report") :=
    says_header ⟨by decide, by decide⟩
  have hjson : Writes "\"json\"".toList (.string "json") := ⟨rfl, by rintro c ⟨⟩; decide⟩
  have hformat : Says (entryLine "format" "\"json\"".toList) (.entry "format" (.string "json")) :=
    says_entry ⟨by decide, by decide⟩ hjson
  refine ⟨?_, ?_, rfl⟩
  · exact (ofText_lines hmark (Placeholder.substitute_of_unclosed (by decide))
      (.cons hheader (.cons hformat .nil)) ⟨by decide, by decide⟩).trans rfl
  · exact (ofText_lines hmark (Placeholder.substitute_of_unclosed (by decide))
      (.cons hheader .nil) ⟨by decide, by decide⟩).trans rfl

end Config

end SegmentBench
