import SegmentBench.Proofs.Report.Decoded

/-!
# Reports without their measured values

In the text of a report each measured value can be replaced by one mark, line by line.  What
is left is settled by the findings.
-/

namespace SegmentBench.Report

/-! ## The mask -/

def mark : List Char := "<t>".toList

/-- The times of the line of text are its first word and the one behind the bracket. -/
def maskWords (line : List Char) : List Char :=
  let parts := line.splitOn ' '
  if parts[1]? = some "seconds:".toList then
    [' '].intercalate ((parts.set 0 mark).set 9 ('(' :: mark))
  else line

def measuredKeys : List String := ["elapsed_secs", "ns_per_iteration", "started_at"]

def lastComma (line : List Char) : List Char :=
  if line.getLast? = some ',' then [','] else []

def maskMember (line : List Char) : List Char :=
  match measuredKeys.find? fun key => (memberStart key).isPrefixOf line with
  | some key => memberStart key ++ mark ++ lastComma line
  | none => line

/-- Only the members of an object are indented. -/
def maskLine (line : List Char) : List Char :=
  if line.head? = some ' ' then maskMember line else maskWords line

def mask (text : List Char) : List Char :=
  ['\n'].intercalate ((text.splitOn '\n').map maskLine)

theorem mask_intercalate {lines : List (List Char)} (hnonempty : lines ≠ [])
    (hlines : ∀ line ∈ lines, '\n' ∉ line) :
    mask (['\n'].intercalate lines) = ['\n'].intercalate (lines.map maskLine) := by
  rw [mask, List.splitOn_intercalate '\n' hlines hnonempty]

theorem maskLine_nil : maskLine [] = [] := by decide

/-! ## The line of text -/

theorem newline_notMem_text (report : Report) : '\n' ∉ report.text.toList := by
  rw [toList_text]
  exact notMem_intercalate (by decide) fun token htoken =>
    (report.singleWord_tokens token htoken).notMem (by decide)

theorem head?_text_ne (report : Report) : report.text.toList.head? ≠ some ' ' := by
  have hword : SingleWord (Fixed.text 6 report.seconds).toList := singleWord_fixed 6 report.seconds
  rw [toList_text, tokens, List.intercalate_cons_cons, List.append_assoc,
    List.head?_append_of_ne_nil _ hword.nonempty]
  exact fun hhead => hword.notMem (by decide) (List.mem_of_head? hhead)

def maskedTokens (report : Report) : List (List Char) :=
  (report.tokens.set 0 mark).set 9 ('(' :: mark)

theorem singleWord_maskedTokens (report : Report) :
    ∀ token ∈ report.maskedTokens, SingleWord token := by
  intro token htoken
  rcases List.mem_or_eq_of_mem_set htoken with htoken | rfl
  · rcases List.mem_or_eq_of_mem_set htoken with htoken | rfl
    · exact report.singleWord_tokens token htoken
    · decide
  · decide

theorem maskLine_text (report : Report) :
    maskLine report.text.toList = [' '].intercalate report.maskedTokens := by
  have hspaces : ∀ token ∈ report.tokens, ' ' ∉ token := fun token htoken =>
    (report.singleWord_tokens token htoken).notMem (by decide)
  have hparts : report.text.toList.splitOn ' ' = report.tokens := by
    rw [toList_text, List.splitOn_intercalate ' ' hspaces (List.cons_ne_nil _ _)]
  have hseconds : report.tokens[1]? = some "seconds:".toList := rfl
  rw [maskLine, if_neg report.head?_text_ne, maskWords, hparts, if_pos hseconds, maskedTokens]

theorem mask_text (report : Report) :
    mask (report.text ++ "\n").toList = [' '].intercalate report.maskedTokens ++ ['\n'] := by
  have hlines : (report.text ++ "\n").toList = ['\n'].intercalate [report.text.toList, []] := by
    simp
  rw [hlines, mask_intercalate (List.cons_ne_nil _ _) (by simp [newline_notMem_text])]
  simp [maskLine_text, maskLine_nil]

/-! ## The object -/

def keys : List String :=
  ["algorithm", "input_size", "iterations", "result", "elapsed_secs", "ns_per_iteration",
    "started_at"]

theorem find?_memberStart {key : String} (hkey : key ∈ keys) (body : List Char) :
    measuredKeys.find? (fun other => (memberStart other).isPrefixOf (memberStart key ++ body)) =
      if key ∈ measuredKeys then some key else none := by
  simp only [keys, List.mem_cons, List.not_mem_nil, or_false] at hkey
  rcases hkey with rfl | rfl | rfl | rfl | rfl | rfl | rfl <;> rfl

def veil (field : String × String) : String × String :=
  if field.1 ∈ measuredKeys then (field.1, String.ofList mark) else field

theorem maskLine_member {field : String × String} {comma : List Char} (hkey : field.1 ∈ keys)
    (hcomma : lastComma ((member field).toList ++ comma) = comma) :
    maskLine ((member field).toList ++ comma) = (member (veil field)).toList ++ comma := by
  have hline : (member field).toList ++ comma =
      memberStart field.1 ++ (field.2.toList ++ comma) := by simp [toList_member]
  have hhead : ((member field).toList ++ comma).head? = some ' ' := by
    rw [hline]
    rfl
  have hfind := find?_memberStart hkey (field.2.toList ++ comma)
  rw [← hline] at hfind
  rw [maskLine, if_pos hhead, maskMember, hfind, veil]
  by_cases hmeasured : field.1 ∈ measuredKeys
  · simp only [if_pos hmeasured, hcomma]
    simp [toList_member]
  · simp only [if_neg hmeasured]

theorem newline_notMem_number (x : Binary64) : '\n' ∉ (number x).toList := by
  cases hcompact : Layout.compact? x with
  | none => simp [number, hcompact]
  | some text =>
      obtain ⟨value, hnumber⟩ := Layout.exists_spellsNumber_compact? hcompact
      simpa [number, hcompact] using hnumber.notMem (by decide) (by decide)

structure OneLine (field : String × String) : Prop where
  known : field.1 ∈ keys
  unbroken : '\n' ∉ field.2.toList

theorem OneLine.veil {field : String × String} (hfield : OneLine field) :
    OneLine (veil field) := by
  rw [Report.veil]
  split
  · refine ⟨hfield.known, ?_⟩
    change '\n' ∉ (String.ofList mark).toList
    decide
  · exact hfield

theorem oneLine_fields (report : Report) : ∀ field ∈ report.fields, OneLine field := by
  have hknown : ∀ field ∈ report.fields, field.1 ∈ keys := by simp [fields, keys]
  have hname : '\n' ∉ report.algorithm.name.toList := by cases report.algorithm <;> decide
  have hnatural : ∀ value, '\n' ∉ (Numeral.natural value).toList := fun value =>
    (Numeral.singleWord_natural value).notMem (by decide)
  have hresult : '\n' ∉ (resultText "null" report.result).toList :=
    (singleWord_result (by decide) report.result).notMem (by decide)
  have htime : '\n' ∉ report.startedAt.text.toList := fun hmem =>
    absurd (isPlain_timestamp report.startedAt '\n' hmem) (by decide)
  have hunbroken : ∀ field ∈ report.fields, '\n' ∉ field.2.toList := by
    simp [fields, inQuotes, hname, hnatural, hresult, htime, newline_notMem_number]
  exact fun field hfield => ⟨hknown field hfield, hunbroken field hfield⟩

/-! ### Its lines -/

def lines (members : List (String × String)) (last : String × String) : List (List Char) :=
  ['\x7b'] :: members.map (fun field => (member field).toList ++ [','])
    ++ [(member last).toList, ['\x7d'], []]

variable {members : List (String × String)} {last : String × String}

theorem newline_notMem_lines (hmembers : ∀ field ∈ members, OneLine field) (hlast : OneLine last) :
    ∀ line ∈ lines members last, '\n' ∉ line := by
  have hstart : ∀ key ∈ keys, '\n' ∉ memberStart key := by decide
  have hmember : ∀ field, OneLine field → '\n' ∉ (member field).toList := by
    intro field hfield
    rw [toList_member, List.mem_append, not_or]
    exact ⟨hstart field.1 hfield.known, hfield.unbroken⟩
  rw [lines, List.forall_mem_append, List.forall_mem_cons, List.forall_mem_map]
  refine ⟨⟨by decide, fun field hfield => ?_⟩, ?_⟩
  · simpa using hmember field (hmembers field hfield)
  · simp [hmember last hlast]

theorem map_maskLine_lines (hmembers : ∀ field ∈ members, OneLine field) (hlast : OneLine last)
    (hcomma : lastComma (member last).toList = []) :
    (lines members last).map maskLine = lines (members.map veil) (veil last) := by
  have hopen : maskLine ['\x7b'] = ['\x7b'] := by decide
  have hclose : maskLine ['\x7d'] = ['\x7d'] := by decide
  have hinner : ∀ field ∈ members, maskLine ((member field).toList ++ [',']) =
      (member (veil field)).toList ++ [','] := fun field hfield =>
    maskLine_member (hmembers field hfield).known (by simp [lastComma])
  have hend : maskLine (member last).toList = (member (veil last)).toList := by
    have hmember : maskLine ((member last).toList ++ []) = (member (veil last)).toList ++ [] :=
      maskLine_member hlast.known (by rw [List.append_nil, hcomma])
    rwa [List.append_nil, List.append_nil] at hmember
  simpa [lines, hopen, hclose, hend, maskLine_nil] using hinner

def maskedLines (report : Report) : List (List Char) :=
  lines (report.fields.dropLast.map veil) ("started_at", String.ofList mark)

theorem mask_json (report : Report) :
    mask (report.json ++ "\n").toList = ['\n'].intercalate report.maskedLines := by
  have hlines : (report.json ++ "\n").toList = ['\n'].intercalate
      (lines report.fields.dropLast ("started_at", inQuotes report.startedAt.text)) := by
    simp [json, lines, fields]
  have hmembers : ∀ field ∈ report.fields.dropLast, OneLine field := fun field hfield =>
    report.oneLine_fields field (List.dropLast_subset _ hfield)
  have hlast : OneLine ("started_at", inQuotes report.startedAt.text) :=
    report.oneLine_fields _ (by simp [fields])
  have hcomma : lastComma (member ("started_at", inQuotes report.startedAt.text)).toList = [] := by
    have hquote : (member ("started_at", inQuotes report.startedAt.text)).toList =
        (memberStart "started_at" ++ '"' :: report.startedAt.text.toList) ++ ['"'] := by
      simp [toList_member, inQuotes]
    rw [lastComma, hquote, List.getLast?_concat, if_neg (by decide)]
  have hnonempty :
      lines report.fields.dropLast ("started_at", inQuotes report.startedAt.text) ≠ [] :=
    List.cons_ne_nil _ _
  rw [hlines, mask_intercalate hnonempty (newline_notMem_lines hmembers hlast),
    map_maskLine_lines hmembers hlast hcomma]
  rfl

theorem newline_notMem_maskedLines (report : Report) :
    ∀ line ∈ report.maskedLines, '\n' ∉ line := by
  refine newline_notMem_lines ?_ ⟨by decide, by decide⟩
  rw [List.forall_mem_map]
  exact fun field hfield => (report.oneLine_fields field (List.dropLast_subset _ hfield)).veil

/-! ## What the mask leaves -/

theorem findingsOfText?_mask (report : Report) :
    findingsOfText? (mask (report.text ++ "\n").toList) = some report.findings := by
  rw [mask_text, findingsOfText?, words_append_cons (by decide), words_nil, List.append_nil,
    words_intercalate report.singleWord_maskedTokens, maskedTokens, findingsOfWords?_tokens]

/-- The mask hides the measured values and nothing else. -/
theorem mask_text_eq_iff {first second : Report} :
    mask (first.text ++ "\n").toList = mask (second.text ++ "\n").toList ↔
      first.findings = second.findings := by
  constructor
  · intro hmask
    have hread := first.findingsOfText?_mask
    rw [hmask, findingsOfText?_mask] at hread
    exact (Option.some.inj hread).symm
  · intro hfindings
    simp only [findings, Prod.mk.injEq] at hfindings
    rw [mask_text, mask_text]
    simp [maskedTokens, tokens, hfindings]

theorem mask_json_eq_iff {first second : Report} :
    mask (first.json ++ "\n").toList = mask (second.json ++ "\n").toList ↔
      first.findings = second.findings := by
  rw [mask_json, mask_json]
  constructor
  · intro hmask
    have hlines : first.maskedLines = second.maskedLines := by
      rw [← List.splitOn_intercalate '\n' first.newline_notMem_maskedLines (List.cons_ne_nil _ _),
        hmask, List.splitOn_intercalate '\n' second.newline_notMem_maskedLines
          (List.cons_ne_nil _ _)]
    have htexts : first.algorithm.name = second.algorithm.name ∧
        Numeral.natural first.inputSize.toNat = Numeral.natural second.inputSize.toNat ∧
        Numeral.natural first.iterations.toNat = Numeral.natural second.iterations.toNat ∧
        resultText "null" first.result = resultText "null" second.result := by
      simpa [maskedLines, lines, fields, veil, measuredKeys, toList_member, inQuotes,
        String.toList_inj] using hlines
    obtain ⟨hname, hsize, hcount, hresult⟩ := htexts
    simp only [findings, Prod.mk.injEq]
    exact ⟨Algorithm.name_injective hname, UInt64.toNat_inj.mp (Numeral.natural_injective hsize),
      UInt64.toNat_inj.mp (Numeral.natural_injective hcount),
      resultText_injective (by decide) hresult⟩
  · intro hfindings
    simp only [findings, Prod.mk.injEq] at hfindings
    simp [maskedLines, fields, veil, measuredKeys, hfindings]

end SegmentBench.Report
