import SegmentBench.Proofs.Decimal.Compact
import SegmentBench.Proofs.Engine.Runs
import SegmentBench.Proofs.Json.Written
import SegmentBench.Proofs.Text.Integers

/-!
# Reports decoded

Each of the two renderings of a report tells its findings.  The object is read as JSON and
the line as words; the measured values have no influence on either.
-/

namespace SegmentBench

open Json (isPlain SpellsNumber)

/-! ## Integers -/

namespace Numeral

def natural? (text : List Char) : Option Nat :=
  if text ≠ [] ∧ text.all isDecimal then some (append 10 0 text) else none

def integer? : List Char → Option Int
  | '-' :: digits => (natural? digits).map fun value => -Int.ofNat value
  | digits => (natural? digits).map Int.ofNat

theorem natural?_digits (value : Nat) : natural? (digits 10 value) = some value := by
  have hdecimal : (digits 10 value).all isDecimal = true :=
    List.all_eq_true.mpr fun _ hmem => isDecimal_of_mem_digits hmem
  rw [natural?, if_pos ⟨digits_ne_nil value, hdecimal⟩, append_digits]

theorem integer?_digits (value : Nat) : integer? (digits 10 value) = some (value : Int) := by
  rw [integer?, natural?_digits]
  · rfl
  · intro rest hdigits
    have hminus : '-' ∈ digits 10 value := hdigits ▸ List.mem_cons_self
    exact notMem_digits (by decide) value hminus

theorem integer?_integer (value : Int) : integer? (integer value).toList = some value := by
  rw [toList_integer]
  split
  · have habs : -Int.ofNat value.natAbs = value := by
      rw [Int.ofNat_eq_natCast]
      omega
    rw [List.singleton_append, integer?, natural?_digits, Option.map_some, habs]
  · have habs : (value.natAbs : Int) = value := by omega
    rw [List.nil_append, integer?_digits, habs]

theorem natural_injective {first second : Nat} (htexts : natural first = natural second) :
    first = second := by
  have hdigits := congrArg String.toList htexts
  rw [toList_natural, toList_natural] at hdigits
  exact digits_injective hdigits

/-! ### As words -/

theorem singleWord_natural (value : Nat) : SingleWord (natural value).toList := by
  rw [toList_natural]
  exact ⟨digits_ne_nil value, fun c hmem =>
    isBlank_of_isDecimal (isDecimal_of_mem_digits hmem)⟩

theorem singleWord_integer (value : Int) : SingleWord (integer value).toList := by
  cases value with
  | ofNat value => exact singleWord_natural value
  | negSucc value =>
      rw [integer, String.toList_append]
      exact .cons (by decide) (singleWord_natural (value + 1))

end Numeral

def unsigned? (value : Int) : Option UInt64 :=
  if (UInt64.ofNat value.toNat).toNat = value then some (UInt64.ofNat value.toNat) else none

def signed? (value : Int) : Option Int64 :=
  if (Int64.ofInt value).toInt = value then some (Int64.ofInt value) else none

theorem unsigned?_toNat (word : UInt64) : unsigned? word.toNat = some word := by
  rw [unsigned?, Int.toNat_natCast, UInt64.ofNat_toNat, if_pos rfl]

theorem signed?_toInt (word : Int64) : signed? word.toInt = some word := by
  rw [signed?, Int64.ofInt_toInt, if_pos rfl]

def Algorithm.ofName? (name : String) : Option Algorithm :=
  all.find? fun algorithm => algorithm.name = name

theorem Algorithm.ofName?_name (algorithm : Algorithm) :
    ofName? algorithm.name = some algorithm := by
  cases algorithm <;> rfl

theorem Algorithm.name_injective {first second : Algorithm} (hnames : first.name = second.name) :
    first = second := by
  have hread := ofName?_name first
  rw [hnames, ofName?_name] at hread
  exact (Option.some.inj hread).symm

/-! ## The object -/

namespace Json

def integer (value : Int) : Json := .number (decide (value < 0)) ⟨value.natAbs, 0⟩

def integer? : Json → Option Int
  | .number negative ⟨significand, 0⟩ => some (signed negative significand)
  | _ => none

def content? : Json → Option String
  | .string text => some text
  | _ => none

theorem integer?_integer (value : Int) : (integer value).integer? = some value := by
  have habs : signed (decide (value < 0)) value.natAbs = value := by
    simp only [signed, decide_eq_true_eq]
    split <;> omega
  rw [integer, integer?, habs]

theorem spellsNumber_integer (value : Int) :
    SpellsNumber (decide (value < 0)) ⟨value.natAbs, 0⟩ (Numeral.integer value).toList := by
  have hnumber : SpellsNumber (decide (value < 0)) _ _ :=
    .parts (Document.isNumeral_digits value.natAbs) .absent .absent
  simpa [minus, Numeral.append_digits, Numeral.toList_integer] using hnumber

end Json

/-! ### Times -/

theorem all_isPlain_padded (width value : Nat) :
    (Numeral.padded width value).all isPlain = true := by
  have hdigits : ∀ d ∈ "0123456789".toList, isPlain d = true := by decide
  exact List.all_eq_true.mpr fun c hmem =>
    hdigits c (Numeral.mem_of_isDecimal (Numeral.isDecimal_of_mem_padded hmem))

theorem all_isPlain_yearText (year : Int) : (Date.yearText year).all isPlain = true := by
  rw [Date.yearText]
  split
  · exact all_isPlain_padded _ _
  · rw [List.all_cons, all_isPlain_padded]
    split <;> rfl

theorem all_isPlain_fraction (nanoseconds : Nat) :
    (Timestamp.fraction nanoseconds).all isPlain = true := by
  have hpoint : isPlain '.' = true := by decide
  rw [Timestamp.fraction]
  split_ifs <;> simp [hpoint, all_isPlain_padded]

theorem isPlain_timestamp (time : Timestamp) : ∀ c ∈ time.text.toList, isPlain c = true := by
  have hmarks : ∀ c ∈ ['-', 'T', ':', 'Z'], isPlain c = true := by decide
  rw [← List.all_eq_true]
  simp [Timestamp.text, Date.text, all_isPlain_padded, all_isPlain_yearText, all_isPlain_fraction,
    hmarks]

namespace Report

structure Entry where
  name : String
  value : Json
  body : List Char

namespace Entry

def text (entry : Entry) : List Char :=
  '"' :: entry.name.toList ++ '"' :: ':' :: ' ' :: entry.body

structure IsRead (entry : Entry) : Prop where
  plain : ∀ c ∈ entry.name.toList, isPlain c = true
  whole : ∀ fuel, Json.Reads (Json.value? (fuel + 1)) entry.value entry.body

end Entry

theorem read?_entries {entries : List Entry} (hnonempty : entries ≠ [])
    (hread : ∀ entry ∈ entries, entry.IsRead) :
    Json.read? ('\x7b' :: ('\n' ::
        [',', '\n'].intercalate (entries.map fun entry => ' ' :: ' ' :: entry.text) ++ ['\n'])
      ++ ['\x7d']) = some (.object (entries.map fun entry => (entry.name, entry.value))) := by
  refine Json.read?_object fun fuel => ?_
  have hmembers : ∀ text ∈ entries.map fun entry => ((entry.name, entry.value), entry.text),
      Json.Reads (Json.member? (Json.value? (fuel + 1))) text.1 text.2 := by
    rw [List.forall_mem_map]
    exact fun entry hentry =>
      Json.reads_member (hread entry hentry).plain ((hread entry hentry).whole fuel)
  have hlines := Json.separated_lines (by simpa using hnonempty) hmembers
  rwa [List.map_map, List.map_map] at hlines

/-! ### Its entries -/

theorem Entry.isRead_number {name : String} {negative : Bool} {value : Decimal} {body : List Char}
    (hname : ∀ c ∈ name.toList, isPlain c = true) (hnumber : SpellsNumber negative value body) :
    (Entry.mk name (.number negative value) body).IsRead :=
  ⟨hname, Json.reads_number hnumber⟩

theorem Entry.isRead_string {name content : String} (hname : ∀ c ∈ name.toList, isPlain c = true)
    (hcontent : ∀ c ∈ content.toList, isPlain c = true) :
    (Entry.mk name (.string content) (inQuotes content).toList).IsRead := by
  have hquotes : (inQuotes content).toList = '"' :: content.toList ++ ['"'] := by
    simp [inQuotes]
  exact ⟨hname, fun fuel => hquotes ▸ Json.reads_string hcontent fuel⟩

theorem exists_isRead_number {name : String} (hname : ∀ c ∈ name.toList, isPlain c = true)
    (x : Binary64) : ∃ value, (Entry.mk name value (number x).toList).IsRead := by
  cases hcompact : Layout.compact? x with
  | none => exact ⟨.null, hname, by simpa [number, hcompact] using Json.reads_null⟩
  | some text =>
      obtain ⟨value, hnumber⟩ := Layout.exists_spellsNumber_compact? hcompact
      exact ⟨.number x.isNegative value, by
        simpa [number, hcompact] using Entry.isRead_number hname hnumber⟩

def resultValue : Option Int64 → Json
  | none => .null
  | some value => .integer value.toInt

theorem isRead_result (result : Option Int64) :
    (Entry.mk "result" (resultValue result) (resultText "null" result).toList).IsRead := by
  cases result with
  | none => exact ⟨by decide, Json.reads_null⟩
  | some value => exact Entry.isRead_number (by decide) (Json.spellsNumber_integer value.toInt)

def findingMembers (report : Report) : List (String × Json) :=
  [("algorithm", .string report.algorithm.name), ("input_size", .integer report.inputSize.toNat),
    ("iterations", .integer report.iterations.toNat), ("result", resultValue report.result)]

def entries (report : Report) (seconds perIteration : Json) : List Entry :=
  [⟨"algorithm", .string report.algorithm.name, (inQuotes report.algorithm.name).toList⟩,
    ⟨"input_size", .integer report.inputSize.toNat,
      (Numeral.natural report.inputSize.toNat).toList⟩,
    ⟨"iterations", .integer report.iterations.toNat,
      (Numeral.natural report.iterations.toNat).toList⟩,
    ⟨"result", resultValue report.result, (resultText "null" report.result).toList⟩,
    ⟨"elapsed_secs", seconds, (number report.seconds).toList⟩,
    ⟨"ns_per_iteration", perIteration, (number report.perIteration).toList⟩,
    ⟨"started_at", .string report.startedAt.text, (inQuotes report.startedAt.text).toList⟩]

def memberStart (key : String) : List Char :=
  ' ' :: ' ' :: '"' :: key.toList ++ ['"', ':', ' ']

theorem toList_member (field : String × String) :
    (member field).toList = memberStart field.1 ++ field.2.toList := by
  simp [member, inQuotes, memberStart]

theorem toList_json (report : Report) (seconds perIteration : Json) :
    report.json.toList =
      '\x7b' :: ('\n' :: [',', '\n'].intercalate
          ((report.entries seconds perIteration).map fun entry => ' ' :: ' ' :: entry.text)
        ++ ['\n']) ++ ['\x7d'] := by
  simp [json, fields, entries, toList_member, memberStart, Entry.text]

/-- The object is read back as it was meant, whatever its measured values. -/
theorem exists_read?_json (report : Report) :
    ∃ seconds perIteration, Json.read? report.json.toList =
      some (.object (report.findingMembers ++ [("elapsed_secs", seconds),
        ("ns_per_iteration", perIteration), ("started_at", .string report.startedAt.text)])) := by
  obtain ⟨seconds, hseconds⟩ : ∃ value, Entry.IsRead ⟨"elapsed_secs", value, _⟩ :=
    exists_isRead_number (by decide) report.seconds
  obtain ⟨perIteration, hperIteration⟩ : ∃ value, Entry.IsRead ⟨"ns_per_iteration", value, _⟩ :=
    exists_isRead_number (by decide) report.perIteration
  have halgorithm : ∀ c ∈ report.algorithm.name.toList, isPlain c = true := by
    cases report.algorithm <;> decide
  have hread : ∀ entry ∈ report.entries seconds perIteration, entry.IsRead := by
    rw [entries]
    simp only [List.forall_mem_cons]
    refine ⟨Entry.isRead_string (by decide) halgorithm, ?_, ?_, isRead_result report.result,
      hseconds, hperIteration, ?_, List.forall_mem_nil _⟩
    · exact Entry.isRead_number (by decide) (Json.spellsNumber_integer report.inputSize.toNat)
    · exact Entry.isRead_number (by decide) (Json.spellsNumber_integer report.iterations.toNat)
    · exact Entry.isRead_string (by decide) (isPlain_timestamp report.startedAt)
  have hnonempty : report.entries seconds perIteration ≠ [] := List.cons_ne_nil _ _
  refine ⟨seconds, perIteration, ?_⟩
  rw [report.toList_json seconds perIteration, read?_entries hnonempty hread]
  rfl

/-! ## The line -/

theorem singleWord_point (places scaled : Nat) :
    SingleWord (Fixed.point places scaled).toList := by
  rw [Fixed.point]
  split
  · exact Numeral.singleWord_natural _
  · simp only [String.toList_append, String.toList_ofList]
    refine ((Numeral.singleWord_natural _).append (by decide)).append fun c hmem => ?_
    exact Numeral.isBlank_of_isDecimal (Numeral.isDecimal_of_mem_padded hmem)

theorem singleWord_fixed (places : Nat) (x : Binary64) :
    SingleWord (Fixed.text places x).toList := by
  have hmagnitude : SingleWord (Fixed.magnitude places x.magnitude).toList := by
    cases x.magnitude with
    | finite units => exact singleWord_point _ _
    | infinite =>
        change SingleWord "inf".toList
        decide
    | notANumber =>
        change SingleWord "NaN".toList
        decide
  rw [Fixed.text]
  split
  · rw [String.toList_append]
    exact .cons (by decide) hmagnitude
  · simpa using hmagnitude

theorem singleWord_result {missing : String} (hmissing : SingleWord missing.toList)
    (result : Option Int64) : SingleWord (resultText missing result).toList := by
  cases result with
  | none => exact hmissing
  | some value => exact Numeral.singleWord_integer value.toInt

def tokens (report : Report) : List (List Char) :=
  [(Fixed.text 6 report.seconds).toList, "seconds:".toList,
    "kadane/".toList ++ report.algorithm.name.toList, "over".toList,
    (Numeral.natural report.inputSize.toNat).toList, "integers".toList, "x".toList,
    (Numeral.natural report.iterations.toNat).toList, "iterations".toList,
    '(' :: (Fixed.text 2 report.perIteration).toList, "ns/iteration),".toList, "result".toList,
    (resultText "none" report.result).toList]

theorem toList_text (report : Report) : report.text.toList = [' '].intercalate report.tokens := by
  simp [text, tokens]

theorem singleWord_tokens (report : Report) : ∀ token ∈ report.tokens, SingleWord token := by
  have hname : SingleWord ("kadane/".toList ++ report.algorithm.name.toList) := by
    cases report.algorithm <;> decide
  simp only [tokens, List.forall_mem_cons]
  refine ⟨singleWord_fixed 6 _, by decide, hname, by decide, Numeral.singleWord_natural _,
    by decide, by decide, Numeral.singleWord_natural _, by decide, .cons (by decide) (singleWord_fixed 2 _),
    by decide, by decide, singleWord_result (by decide) _, List.forall_mem_nil _⟩

theorem words_text (report : Report) : words report.text.toList = report.tokens := by
  rw [toList_text, words_intercalate report.singleWord_tokens]

/-! ## What they tell -/

def resultOfValue? : Json → Option (Option Int64)
  | .null => some none
  | value => (value.integer?.bind signed?).map some

def resultOfWord? (missing : String) (word : List Char) : Option (Option Int64) :=
  if word = missing.toList then some none
  else ((Numeral.integer? word).bind signed?).map some

def algorithmOfWord? (word : List Char) : Option Algorithm :=
  Algorithm.all.find? fun algorithm => "kadane/".toList ++ algorithm.name.toList = word

abbrev Findings := Algorithm × UInt64 × UInt64 × Option Int64

def findingsOfMembers? (members : List (String × Json)) : Option Findings := do
  let algorithm ← members.lookup "algorithm" >>= Json.content? >>= Algorithm.ofName?
  let inputSize ← members.lookup "input_size" >>= Json.integer? >>= unsigned?
  let iterations ← members.lookup "iterations" >>= Json.integer? >>= unsigned?
  let result ← members.lookup "result" >>= resultOfValue?
  return (algorithm, inputSize, iterations, result)

def findingsOfJson? (text : List Char) : Option Findings :=
  match Json.read? text with
  | some (.object members) => findingsOfMembers? members
  | _ => none

def findingsOfWords? : List (List Char) → Option Findings
  | [_, _, name, _, inputSize, _, _, iterations, _, _, _, _, result] => do
      let algorithm ← algorithmOfWord? name
      let inputSize ← Numeral.integer? inputSize >>= unsigned?
      let iterations ← Numeral.integer? iterations >>= unsigned?
      let result ← resultOfWord? "none" result
      return (algorithm, inputSize, iterations, result)
  | _ => none

def findingsOfText? (text : List Char) : Option Findings := findingsOfWords? (words text)

theorem resultOfValue?_resultValue (result : Option Int64) :
    resultOfValue? (resultValue result) = some result := by
  cases result with
  | none => rfl
  | some value =>
      rw [resultValue, resultOfValue?, Json.integer?_integer, Option.bind_some, signed?_toInt]
      · rfl
      · simp [Json.integer]

theorem resultOfWord?_resultText {missing : String}
    (hmissing : Numeral.integer? missing.toList = none) (result : Option Int64) :
    resultOfWord? missing (resultText missing result).toList = some result := by
  cases result with
  | none => rw [resultText, resultOfWord?, if_pos rfl]
  | some value =>
      have hread := Numeral.integer?_integer value.toInt
      have hne : (Numeral.integer value.toInt).toList ≠ missing.toList := fun hword => by
        rw [hword, hmissing] at hread
        cases hread
      rw [resultText, resultOfWord?, if_neg hne, hread, Option.bind_some, signed?_toInt]
      rfl

theorem resultText_injective {missing : String} {first second : Option Int64}
    (hmissing : Numeral.integer? missing.toList = none)
    (htexts : resultText missing first = resultText missing second) : first = second := by
  have hread := resultOfWord?_resultText hmissing first
  rw [htexts, resultOfWord?_resultText hmissing] at hread
  exact (Option.some.inj hread).symm

theorem algorithmOfWord?_name (algorithm : Algorithm) :
    algorithmOfWord? ("kadane/".toList ++ algorithm.name.toList) = some algorithm := by
  cases algorithm <;> decide

theorem findingsOfMembers?_append (report : Report) (others : List (String × Json)) :
    findingsOfMembers? (report.findingMembers ++ others) = some report.findings := by
  have halgorithm : (report.findingMembers ++ others).lookup "algorithm" =
      some (.string report.algorithm.name) := rfl
  have hsize : (report.findingMembers ++ others).lookup "input_size" =
      some (.integer report.inputSize.toNat) := rfl
  have hcount : (report.findingMembers ++ others).lookup "iterations" =
      some (.integer report.iterations.toNat) := rfl
  have hresult : (report.findingMembers ++ others).lookup "result" =
      some (resultValue report.result) := rfl
  simp only [findingsOfMembers?, halgorithm, hsize, hcount, hresult, Option.bind_eq_bind,
    Option.bind_some, Json.content?, Algorithm.ofName?_name, Json.integer?_integer,
    unsigned?_toNat, resultOfValue?_resultValue]
  rfl

theorem findingsOfJson?_json (report : Report) :
    findingsOfJson? report.json.toList = some report.findings := by
  obtain ⟨seconds, perIteration, hread⟩ := report.exists_read?_json
  simp only [findingsOfJson?, hread, findingsOfMembers?_append]

theorem findingsOfWords?_tokens (report : Report) (seconds perIteration : List Char) :
    findingsOfWords? ((report.tokens.set 0 seconds).set 9 perIteration) =
      some report.findings := by
  have hinteger : ∀ value : Nat,
      Numeral.integer? (Numeral.natural value).toList = some (value : Int) :=
    fun value => Numeral.integer?_integer value
  have hmissing : Numeral.integer? "none".toList = none := by decide
  simp only [tokens, List.set_cons_zero, List.set_cons_succ, findingsOfWords?, hinteger,
    Option.bind_eq_bind, Option.bind_some, algorithmOfWord?_name, unsigned?_toNat,
    resultOfWord?_resultText hmissing]
  rfl

theorem findingsOfText?_text (report : Report) :
    findingsOfText? report.text.toList = some report.findings := by
  rw [findingsOfText?, words_text]
  exact report.findingsOfWords?_tokens _ _

/-- Whatever was measured and whenever: the object is JSON with the findings in front, both
renderings tell them, and reports that share a rendering share them. -/
theorem renderings_tell_findings (report : Report) :
    (∃ seconds perIteration,
      let object := Json.object (report.findingMembers ++ [("elapsed_secs", seconds),
        ("ns_per_iteration", perIteration), ("started_at", .string report.startedAt.text)])
      Json.IsText object report.json.toList ∧ Json.read? report.json.toList = some object) ∧
    findingsOfJson? report.json.toList = some report.findings ∧
    findingsOfText? report.text.toList = some report.findings ∧
    ∀ other : Report, other.json = report.json ∨ other.text = report.text →
      other.findings = report.findings := by
  refine ⟨?_, report.findingsOfJson?_json, report.findingsOfText?_text, ?_⟩
  · obtain ⟨seconds, perIteration, hread⟩ := report.exists_read?_json
    exact ⟨seconds, perIteration, Json.read?_sound hread, hread⟩
  · rintro other (hjson | htext)
    · have hother := other.findingsOfJson?_json
      rw [hjson, findingsOfJson?_json] at hother
      exact (Option.some.inj hother).symm
    · have hother := other.findingsOfText?_text
      rw [htext, findingsOfText?_text] at hother
      exact (Option.some.inj hother).symm

end Report

end SegmentBench
