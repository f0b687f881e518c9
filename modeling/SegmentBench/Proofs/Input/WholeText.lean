import SegmentBench.Proofs.Input.Steady

/-!
# Reading a whole text

What a steady stream yields is what the words of its whole text say: the first word
that is no integer among those asked for, or else that they are too few, or else their
values.  The lines matter to the reader only in that it stops behind one.
-/

namespace SegmentBench

open Numeral (readInt32)

def AllIntegers (tokens : List (List Char)) : Prop :=
  ∀ token ∈ tokens, ∃ value, readInt32 token = .ok value

theorem allIntegers_of_map {tokens : List (List Char)} (values : List Int32)
    (hvalues : tokens.map readInt32 = values.map .ok) : AllIntegers tokens := by
  intro token hmem
  have hread := List.mem_map_of_mem (f := readInt32) hmem
  rw [hvalues, List.mem_map] at hread
  obtain ⟨value, -, hvalue⟩ := hread
  exact ⟨value, hvalue.symm⟩

theorem AllIntegers.ne_error {tokens : List (List Char)} (hall : AllIntegers tokens)
    {token : List Char} (hmem : token ∈ tokens) (fault : Numeral.Fault) :
    readInt32 token ≠ .error fault := by
  obtain ⟨value, hvalue⟩ := hall token hmem
  simp [hvalue]

namespace Progress

variable {expected : Nat} {progress next : Progress}

/-! ## Words -/

/-- The words in `read` have been read. -/
structure Holds (read : List (List Char)) (progress : Progress) : Prop where
  values : read.map readInt32 = progress.values.reverse.map .ok
  count : progress.count = read.length

theorem holds_start : Holds [] start := ⟨rfl, rfl⟩

theorem start_count_le (expected : Nat) : start.count ≤ expected := Nat.zero_le expected

theorem Holds.push {read : List (List Char)} (hholds : Holds read progress)
    {word : List Char} {value : Int32} (hvalue : readInt32 word = .ok value) :
    Holds (read ++ [word]) (progress.push value) where
  values := by simp [Progress.push, hholds.values, hvalue]
  count := by simp [Progress.push, hholds.count]

theorem takeWords_enough (henough : progress.count = expected) (tokens : List (List Char)) :
    progress.takeWords expected tokens = .ok progress := by
  cases tokens <;> simp [takeWords, henough]

theorem takeWords_append (first second : List (List Char)) :
    progress.takeWords expected (first ++ second) =
      match progress.takeWords expected first with
      | .error failure => .error failure
      | .ok next => next.takeWords expected second := by
  induction first generalizing progress with
  | nil => rfl
  | cons word first ih =>
      by_cases henough : progress.count = expected
      · simp only [takeWords_enough henough]
      · simp only [List.cons_append, takeWords, if_neg henough]
        cases readInt32 word with
        | error fault => rfl
        | ok value => exact ih

theorem takeWords_count_le {tokens : List (List Char)} (hcount : progress.count ≤ expected)
    (htaken : progress.takeWords expected tokens = .ok next) : next.count ≤ expected := by
  fun_induction takeWords expected progress tokens with
  | case1 progress => cases htaken; exact hcount
  | case2 progress word rest henough => cases htaken; exact hcount
  | case3 => cases htaken
  | case4 progress word rest hmore value hvalue ih =>
      exact ih (by simp only [push]; omega) htaken

end Progress

/-! ## The outcome of a text -/

/-- The outcome of reading `count` integers from a text with the words `tokens`. -/
inductive Reads (count : Nat) (tokens : List (List Char)) :
    Except Failure (List Int32) → Prop where
  | badInteger {index : Nat} {token : List Char} {fault : Numeral.Fault}
      (asked : index < count) (here : tokens[index]? = some token)
      (bad : readInt32 token = .error fault)
      (first : AllIntegers (tokens.take index)) :
      Reads count tokens (.error (.badInteger index (String.ofList token) fault))
  | shortInput (short : tokens.length < count) (good : AllIntegers tokens) :
      Reads count tokens (.error (.shortInput count tokens.length))
  | integers {values : List Int32} (length : values.length = count)
      (good : (tokens.take count).map readInt32 = values.map .ok) :
      Reads count tokens (.ok values)

namespace Reads

variable {count : Nat} {tokens : List (List Char)}

private theorem mem_take {index : Nat} {token : List Char} (hindex : index < count)
    (hhere : tokens[index]? = some token) : token ∈ tokens.take count := by
  rw [← List.getElem?_take_of_lt hindex] at hhere
  exact List.mem_of_getElem? hhere

theorem unique {one two : Except Failure (List Int32)} (hone : Reads count tokens one)
    (htwo : Reads count tokens two) : one = two := by
  cases hone with
  | @badInteger index token fault asked here bad first =>
      cases htwo with
      | @badInteger index' token' fault' asked' here' bad' first' =>
          rcases Nat.lt_trichotomy index index' with hlt | rfl | hgt
          · exact absurd bad (first'.ne_error (mem_take hlt here) fault)
          · cases here.symm.trans here'
            cases bad.symm.trans bad'
            rfl
          · exact absurd bad' (first.ne_error (mem_take hgt here') fault')
      | shortInput short good =>
          exact absurd bad (good.ne_error (List.mem_of_getElem? here) fault)
      | integers length good =>
          have hall := allIntegers_of_map _ good
          exact absurd bad (hall.ne_error (mem_take asked here) fault)
  | shortInput short good =>
      cases htwo with
      | badInteger asked here bad first =>
          exact absurd bad (good.ne_error (List.mem_of_getElem? here) _)
      | shortInput short' good' => rfl
      | integers length good' =>
          have := congrArg List.length good'
          simp only [List.length_map, List.length_take] at this
          omega
  | integers length good =>
      cases htwo with
      | badInteger asked here bad first =>
          have hall := allIntegers_of_map _ good
          exact absurd bad (hall.ne_error (mem_take asked here) _)
      | shortInput short good' =>
          have := congrArg List.length good
          simp only [List.length_map, List.length_take] at this
          omega
      | integers length' good' =>
          rw [(List.map_inj_right fun _ _ => Except.ok.inj).mp (good.symm.trans good')]

end Reads

namespace Progress

variable {expected : Nat} {progress next : Progress} {read tokens : List (List Char)}

theorem Holds.allIntegers (hholds : Holds read progress) : AllIntegers read :=
  allIntegers_of_map _ hholds.values

theorem takeWords_ok (hholds : Holds read progress) (hroom : read.length ≤ expected)
    (htaken : progress.takeWords expected tokens = .ok next) :
    Holds ((read ++ tokens).take expected) next := by
  induction tokens generalizing read progress with
  | nil =>
      cases htaken
      rwa [List.append_nil, List.take_of_length_le hroom]
  | cons word tokens ih =>
      by_cases henough : progress.count = expected
      · rw [takeWords_enough henough] at htaken
        cases htaken
        rwa [← henough, hholds.count, List.take_left]
      · have hmore : read.length < expected := by
          have := hholds.count
          omega
        rw [takeWords, if_neg henough] at htaken
        cases hvalue : readInt32 word with
        | error fault => simp [hvalue] at htaken
        | ok value =>
            rw [hvalue] at htaken
            have hnext := ih (hholds.push hvalue) (by simp; omega) htaken
            simpa using hnext

theorem Holds.values_eq {values : List Int32} (hholds : Holds read progress)
    (hvalues : read.map readInt32 = values.map .ok) : progress.values.reverse = values :=
  (List.map_inj_right fun _ _ => Except.ok.inj).mp (hholds.values.symm.trans hvalues)

theorem Holds.takeWords_good (hholds : Holds read progress) (hgood : AllIntegers tokens)
    (hroom : read.length + tokens.length ≤ expected) :
    ∃ next, progress.takeWords expected tokens = .ok next ∧
      Holds (read ++ tokens) next := by
  induction tokens generalizing read progress with
  | nil => exact ⟨progress, rfl, by simpa using hholds⟩
  | cons word tokens ih =>
      obtain ⟨⟨value, hvalue⟩, hrest⟩ := List.forall_mem_cons.mp hgood
      rw [List.length_cons] at hroom
      have hmore : progress.count ≠ expected := by
        have := hholds.count
        omega
      obtain ⟨next, htaken, hnext⟩ := ih (hholds.push hvalue) hrest (by simp; omega)
      refine ⟨next, ?_, by simpa using hnext⟩
      rw [takeWords, if_neg hmore, hvalue]
      exact htaken

theorem Holds.takeWords_bad {failure : Failure} (hholds : Holds read progress)
    (hroom : read.length ≤ expected)
    (htaken : progress.takeWords expected tokens = .error failure) :
    ∃ index token fault, read.length + index < expected ∧ tokens[index]? = some token ∧
      readInt32 token = .error fault ∧ AllIntegers (tokens.take index) ∧
      failure = .badInteger (read.length + index) (String.ofList token) fault := by
  induction tokens generalizing read progress with
  | nil => cases htaken
  | cons word tokens ih =>
      by_cases henough : progress.count = expected
      · rw [takeWords_enough henough] at htaken
        cases htaken
      · have hmore : read.length < expected := by
          have := hholds.count
          omega
        rw [takeWords, if_neg henough] at htaken
        cases hvalue : readInt32 word with
        | error fault =>
            simp only [hvalue] at htaken
            cases htaken
            rw [hholds.count]
            exact ⟨0, word, fault, hmore, rfl, hvalue, by simp [AllIntegers], rfl⟩
        | ok value =>
            rw [hvalue] at htaken
            obtain ⟨index, token, fault, hasked, hhere, hbad, hfirst, rfl⟩ :=
              ih (hholds.push hvalue) (by simp; omega) htaken
            rw [List.length_append, List.length_singleton] at hasked
            refine ⟨index + 1, token, fault, by omega, hhere, hbad, ?_, ?_⟩
            · exact List.forall_mem_cons.mpr ⟨⟨value, hvalue⟩, hfirst⟩
            · rw [List.length_append, List.length_singleton, Nat.add_right_comm, Nat.add_assoc]

theorem takeWords_error {failure : Failure} (hholds : Holds read progress)
    (hroom : read.length ≤ expected)
    (htaken : progress.takeWords expected tokens = .error failure) :
    Reads expected (read ++ tokens) (.error failure) := by
  obtain ⟨index, token, fault, hasked, hhere, hbad, hfirst, rfl⟩ :=
    hholds.takeWords_bad hroom htaken
  have hwhole : (read ++ tokens)[read.length + index]? = some token := by
    rw [List.getElem?_append_right (Nat.le_add_right _ _), Nat.add_sub_cancel_left, hhere]
  refine .badInteger hasked hwhole hbad ?_
  rw [List.take_length_add_append]
  exact List.forall_mem_append.mpr ⟨hholds.allIntegers, hfirst⟩

theorem Holds.reads_end (hholds : Holds (tokens.take expected) progress) :
    Reads expected tokens (match (progress.readLines expected []).1 with
      | .error failure => .error failure
      | .ok last => .ok last.values.reverse) := by
  have hcount := hholds.count
  rw [List.length_take] at hcount
  by_cases hmore : progress.count < expected
  · have hall : tokens.take expected = tokens := List.take_of_length_le (by omega)
    have hlength : progress.count = tokens.length := by omega
    rw [hall] at hholds
    simp only [readLines, if_pos hmore]
    rw [hlength]
    exact .shortInput (by omega) hholds.allIntegers
  · have hvalues := congrArg List.length hholds.values
    simp only [List.length_map, List.length_take, List.length_reverse] at hvalues
    simp only [readLines, if_neg hmore]
    exact .integers (by rw [List.length_reverse]; omega) hholds.values

/-! ## Lines -/

theorem takeLine_text {text : List Char} (hnonempty : text ≠ []) :
    progress.takeLine expected (Utf8.encode text) =
      progress.takeWords expected (words text) := by
  rw [takeLine, if_neg (mt encode_eq_nil_iff.mp hnonempty), Utf8.decode_encode]

/-- Lines of text are read as the list of all their words, up to the line in which the
words are enough. -/
theorem readLines_texts (texts : List (List Char)) (hnonempty : ∀ text ∈ texts, text ≠ [])
    (hcount : progress.count ≤ expected) (lines : List Bytes) :
    (progress.readLines expected (texts.map Utf8.encode ++ lines)).1 =
      match progress.takeWords expected (texts.flatMap words) with
      | .error failure => .error failure
      | .ok next => (next.readLines expected lines).1 := by
  induction texts generalizing progress with
  | nil => rfl
  | cons text texts ih =>
      obtain ⟨htext, htexts⟩ := List.forall_mem_cons.mp hnonempty
      rw [List.flatMap_cons, takeWords_append, List.map_cons, List.cons_append]
      by_cases hmore : progress.count < expected
      · rw [readLines, if_pos hmore, takeLine_text htext]
        cases htaken : progress.takeWords expected (words text) with
        | error failure => rfl
        | ok next => exact ih htexts (takeWords_count_le hcount htaken)
      · have henough : progress.count = expected := by omega
        simp only [takeWords_enough henough, readLines_enough hmore]

end Progress

namespace Stream

variable {stream : Stream} {memory : Memory} {count : UInt64}

theorem Steady.readIntegers (hroom : reserve memory count = .ok ()) (hsteady : stream.Steady) :
    ∃ later, stream.readIntegers memory count =
        (match (Progress.start.readLines count.toNat (linesOf newline stream.rest)).1 with
          | .error failure => .error failure
          | .ok progress => .ok progress.values.reverse, later) ∧
      linesOf newline later.rest =
        (Progress.start.readLines count.toNat (linesOf newline stream.rest)).2 ∧
      later.Steady := by
  obtain ⟨later, hread, hlater⟩ := hsteady.readFrom count.toNat Progress.start
  refine ⟨later, ?_, hlater⟩
  unfold Stream.readIntegers
  rw [hroom, hread]
  cases (Progress.start.readLines count.toNat (linesOf newline stream.rest)).1 <;> rfl

theorem readIntegers_eq (hroom : reserve memory count = .ok ()) (hsteady : stream.Steady) :
    (stream.readIntegers memory count).1 =
      match (Progress.start.readLines count.toNat (linesOf newline stream.rest)).1 with
      | .error failure => .error failure
      | .ok progress => .ok progress.values.reverse := by
  obtain ⟨later, hread, -⟩ := hsteady.readIntegers hroom
  rw [hread]

theorem Steady.rest_readIntegers (hroom : reserve memory count = .ok ())
    (hsteady : stream.Steady) :
    (stream.readIntegers memory count).2.rest =
      (Progress.start.readLines count.toNat (linesOf newline stream.rest)).2.flatten := by
  obtain ⟨later, hread, hleft, -⟩ := hsteady.readIntegers hroom
  rw [hread, ← hleft, flatten_linesOf]

theorem readIntegers_texts {text : List Char} {lines : List Bytes}
    (hroom : reserve memory count = .ok ()) (hsteady : stream.Steady)
    (hlines : linesOf newline stream.rest = (linesOf '\n' text).map Utf8.encode ++ lines) :
    (stream.readIntegers memory count).1 =
      match Progress.start.takeWords count.toNat (words text) with
      | .error failure => .error failure
      | .ok next =>
          match (next.readLines count.toNat lines).1 with
          | .error failure => .error failure
          | .ok last => .ok last.values.reverse := by
  rw [readIntegers_eq hroom hsteady, hlines,
    Progress.readLines_texts _ (fun _ => ne_nil_of_mem_linesOf) (Progress.start_count_le _),
    words_linesOf]
  cases Progress.start.takeWords count.toNat (words text) <;> rfl

theorem readIntegers_text {text : List Char} (hroom : reserve memory count = .ok ())
    (hsteady : stream.Steady) (hrest : stream.rest = Utf8.encode text) :
    (stream.readIntegers memory count).1 =
      match Progress.start.takeWords count.toNat (words text) with
      | .error failure => .error failure
      | .ok next =>
          if next.count < count.toNat then .error (.shortInput count.toNat next.count)
          else .ok next.values.reverse := by
  have hlines : linesOf newline stream.rest =
      (linesOf '\n' text).map Utf8.encode ++ [] := by
    rw [hrest, linesOf_encode, List.append_nil]
  rw [readIntegers_texts hroom hsteady hlines]
  cases Progress.start.takeWords count.toNat (words text) with
  | error failure => rfl
  | ok next =>
      by_cases hmore : next.count < count.toNat
      · simp only [Progress.readLines, if_pos hmore]
      · simp only [Progress.readLines, if_neg hmore]

/-- Reading line by line, and no further than needed, has the outcome that the words of
the whole text have. -/
theorem readIntegers_eq_iff {text : List Char} {outcome : Except Failure (List Int32)}
    (hroom : reserve memory count = .ok ()) (hsteady : stream.Steady)
    (hwhole : stream.rest = Utf8.encode text) :
    (stream.readIntegers memory count).1 = outcome ↔
      Reads count.toNat (words text) outcome := by
  have hreads : Reads count.toNat (words text) (stream.readIntegers memory count).1 := by
    have hlines := Progress.readLines_texts (linesOf '\n' text)
      (fun _ => ne_nil_of_mem_linesOf) (Progress.start_count_le count.toNat) []
    rw [List.append_nil, ← linesOf_encode, ← hwhole, words_linesOf] at hlines
    rw [readIntegers_eq hroom hsteady, hlines]
    cases htaken : Progress.start.takeWords count.toNat (words text) with
    | error failure =>
        exact Progress.takeWords_error Progress.holds_start (Nat.zero_le _) htaken
    | ok progress =>
        exact (Progress.takeWords_ok Progress.holds_start (Nat.zero_le _) htaken).reads_end
  constructor
  · rintro rfl
    exact hreads
  · exact hreads.unique

theorem readIntegers_second_line :
    ((ofBytes (Utf8.encode ['4', '\u2003', '2', '\n', '\n', 'x', ' ', '7'])).readIntegers
      Memory.usual 3).1 = .error (.badInteger 2 "x" .invalidDigit) :=
  (readIntegers_eq_iff rfl (steady_ofBytes _) rfl).mpr
    (.badInteger (by decide) rfl rfl (allIntegers_of_map [4, 2] rfl))

end Stream

end SegmentBench
