import SegmentBench.Proofs.Input.WholeText

/-!
# The first broken line

A line that is no text is met only by a read that the lines in front of it leave short.  It
is then refused as the end of the stream would have been, with the same number of integers
read, and the fault is told by the bytes of that line alone.
-/

namespace SegmentBench

open SegmentBench.Stream (newline)

/-- What becomes of an outcome when a broken line stands where the stream ended. -/
inductive MeetsBroken (fault : Utf8.Fault) :
    Except Failure (List Int32) → Except Failure (List Int32) → Prop where
  | integers (values : List Int32) : MeetsBroken fault (.ok values) (.ok values)
  | badInteger (index : Nat) (token : String) (cause : Numeral.Fault) :
      MeetsBroken fault (.error (.badInteger index token cause))
        (.error (.badInteger index token cause))
  | shortInput (expected found : Nat) :
      MeetsBroken fault (.error (.shortInput expected found))
        (.error (.badEncoding found fault))

namespace Progress

variable {expected : Nat} {progress : Progress} {fault : Utf8.Fault} {behind : Bytes}

theorem takeLine_broken {line : Bytes} (hbroken : Utf8.decode line = .error fault) :
    progress.takeLine expected line = .error (.badEncoding progress.count fault) := by
  have hline : line ≠ [] := by
    rintro rfl
    cases hbroken
  rw [takeLine, if_neg hline, hbroken]

theorem readLines_broken (hmore : progress.count < expected)
    (hbroken : Utf8.decode (SegmentBench.takeLine newline behind) = .error fault) :
    (progress.readLines expected (linesOf newline behind)).1 =
      .error (.badEncoding progress.count fault) := by
  rw [readLines_linesOf hmore, takeLine_broken hbroken]

end Progress

namespace Stream

variable {front whole : Stream} {memory : Memory} {count : UInt64} {text : List Char}
  {behind : Bytes} {fault : Utf8.Fault}

/-- Behind lines of text a broken line changes nothing for a read that they settle, by their
integers or by a word that is none; one that they leave short has the broken line to tell,
at the place of the integer that is missing. -/
theorem readIntegers_meets_broken (hroom : reserve memory count = .ok ())
    (hfront : front.Steady) (hwhole : whole.Steady)
    (hlines : ∀ c ∈ text.getLast?, c = '\n') (hfront_rest : front.rest = Utf8.encode text)
    (hwhole_rest : whole.rest = Utf8.encode text ++ behind)
    (hbroken : Utf8.decode (takeLine newline behind) = .error fault) :
    MeetsBroken fault (front.readIntegers memory count).1
      (whole.readIntegers memory count).1 := by
  have hwhole_lines : linesOf newline whole.rest =
      (linesOf '\n' text).map Utf8.encode ++ linesOf newline behind := by
    rw [hwhole_rest, linesOf_encode_append hlines]
  rw [readIntegers_text hroom hfront hfront_rest, readIntegers_texts hroom hwhole hwhole_lines]
  cases htaken : Progress.start.takeWords count.toNat (words text) with
  | error failure =>
      obtain ⟨index, token, cause, -, -, -, -, rfl⟩ :=
        Progress.holds_start.takeWords_bad (Nat.zero_le _) htaken
      exact .badInteger _ _ cause
  | ok next =>
      by_cases hmore : next.count < count.toNat
      · simp only [if_pos hmore, Progress.readLines_broken hmore hbroken]
        exact .shortInput count.toNat next.count
      · simp only [if_neg hmore, Progress.readLines_enough hmore]
        exact .integers next.values.reverse

theorem readIntegers_meets_broken_third :
    let text := ['4', ' ', '-', '2', '\n']
    let behind : Bytes := [0x37, 0x20, 0xFF, 0x0A, 0x38]
    (∀ c ∈ text.getLast?, c = '\n') ∧
      Utf8.decode (takeLine newline behind) = .error ⟨2, some 1⟩ ∧
      ((ofBytes (Utf8.encode text)).readIntegers Memory.usual 3).1 =
        .error (.shortInput 3 2) ∧
      ((ofBytes (Utf8.encode text ++ behind)).readIntegers Memory.usual 3).1 =
        .error (.badEncoding 2 ⟨2, some 1⟩) := by
  intro text behind
  have hroom : reserve Memory.usual 3 = .ok () := rfl
  have hlines : ∀ c ∈ text.getLast?, c = '\n' := by
    rintro c ⟨⟩
    rfl
  have hbroken : Utf8.decode (takeLine newline behind) = .error ⟨2, some 1⟩ := rfl
  have hshort : ((ofBytes (Utf8.encode text)).readIntegers Memory.usual 3).1 =
      .error (.shortInput 3 2) :=
    readIntegers_text hroom (steady_ofBytes _) rfl
  have hmeets := readIntegers_meets_broken hroom (steady_ofBytes (Utf8.encode text))
    (steady_ofBytes (Utf8.encode text ++ behind)) hlines rfl rfl hbroken
  refine ⟨hlines, hbroken, hshort, ?_⟩
  rw [hshort] at hmeets
  generalize ((ofBytes (Utf8.encode text ++ behind)).readIntegers Memory.usual 3).1 = outcome
    at hmeets
  cases hmeets
  rfl

end Stream

end SegmentBench
