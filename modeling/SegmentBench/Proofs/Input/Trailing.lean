import SegmentBench.Proofs.Input.WholeText
import Mathlib.Data.List.DropRight

/-!
# Bytes behind the last integer

The reader stops behind the line of the last integer.  It decodes that line as a whole,
so bytes behind the integer matter when they stand on its line and are no text there.
-/

namespace SegmentBench

open Numeral (readInt32)

/-! ## The last line -/

def closedLines (text : List Char) : List Char := text.rdropWhile (· ≠ '\n')

def openLine (text : List Char) : List Char := text.rtakeWhile (· ≠ '\n')

variable {text : List Char}

theorem closedLines_append_openLine (text : List Char) :
    closedLines text ++ openLine text = text :=
  List.rdropWhile_append_rtakeWhile

theorem newline_notMem_openLine : '\n' ∉ openLine text := by
  intro hmem
  simpa using List.mem_rtakeWhile_imp hmem

theorem closedLines_closed : ∀ c ∈ (closedLines text).getLast?, c = '\n' := by
  intro c hlast
  have hne : closedLines text ≠ [] := by
    rintro hnil
    simp [hnil] at hlast
  have hstop := List.rdropWhile_last_not _ text hne
  rw [List.getLast?_eq_some_getLast hne] at hlast
  cases hlast
  by_contra hother
  exact hstop (decide_eq_true hother)

theorem endsBlank_closedLines : EndsBlank (closedLines text) := by
  intro c hlast
  rw [closedLines_closed c hlast]
  decide

theorem endsBlank_openLine (hblank : EndsBlank text) : EndsBlank (openLine text) := by
  intro c hlast
  apply hblank c
  rw [← closedLines_append_openLine text, List.getLast?_append, hlast]
  rfl

theorem words_closedLines_append_openLine (text : List Char) :
    words (closedLines text) ++ words (openLine text) = words text := by
  rw [← words_append endsBlank_closedLines, closedLines_append_openLine]

namespace Progress

open SegmentBench.Stream (newline)

variable {expected : Nat} {progress : Progress} {read : List (List Char)}

/-- The line of the last integers, with what follows on it, is decoded before it is
known that they are enough. -/
theorem Holds.readLines_last {line : List Char} {trailing : Bytes}
    (hholds : Holds read progress) (hgood : AllIntegers (words line))
    (hcount : (read ++ words line).length = expected) (hmore : words line ≠ [])
    (hline : '\n' ∉ line) (hblank : EndsBlank line) :
    (progress.readLines expected (linesOf newline (Utf8.encode line ++ trailing))).1 =
      match Utf8.decode (Utf8.encode line ++ SegmentBench.takeLine newline trailing) with
      | .error fault => .error (.badEncoding progress.count fault)
      | .ok _ => progress.takeWords expected (words line) := by
  rw [List.length_append] at hcount
  have hasked : progress.count < expected := by
    have := hholds.count
    have := List.length_pos_iff.mpr hmore
    omega
  have hnonempty : Utf8.encode line ≠ [] := by
    rw [ne_eq, encode_eq_nil_iff]
    rintro rfl
    exact hmore rfl
  rw [readLines_linesOf hasked, takeLine_append_of_notMem (newline_notMem_encode hline),
    takeLine, if_neg (by simp [hnonempty])]
  cases hdecode : Utf8.decode
      (Utf8.encode line ++ SegmentBench.takeLine newline trailing) with
  | error fault => rfl
  | ok whole =>
      obtain ⟨more, -, rfl⟩ := Utf8.decode_append_eq_ok_iff.mp hdecode
      obtain ⟨next, htaken, hnext⟩ := hholds.takeWords_good hgood hcount.le
      have henough : next.count = expected := by
        rw [hnext.count, List.length_append, hcount]
      simp only [words_append hblank, takeWords_append, htaken, takeWords_enough henough]
      rw [readLines_enough (by omega)]

end Progress

namespace Stream

variable {stream : Stream} {memory : Memory} {count : UInt64} {text : List Char}
  {trailing : Bytes} {values : List Int32}

theorem readIntegers_append (hroom : reserve memory count = .ok ())
    (hsteady : stream.Steady) (hrest : stream.rest = Utf8.encode text ++ trailing)
    (hblank : EndsBlank text) (hvalues : (words text).map readInt32 = values.map .ok)
    (hcount : values.length = count.toNat) :
    (stream.readIntegers memory count).1 =
      if words (openLine text) = [] then .ok values
      else
        match Utf8.decode (Utf8.encode (openLine text) ++ takeLine newline trailing) with
        | .error fault => .error (.badEncoding (words (closedLines text)).length fault)
        | .ok _ => .ok values := by
  have hsplit := words_closedLines_append_openLine text
  have hlength : (words text).length = count.toNat := by
    rw [← hcount, ← List.length_map, hvalues, List.length_map]
  have hgood := allIntegers_of_map values hvalues
  rw [← hsplit] at hgood hlength
  obtain ⟨hclosed, hopen⟩ := List.forall_mem_append.mp hgood
  rw [List.length_append] at hlength
  have hfirst : ([] : List (List Char)).length + (words (closedLines text)).length ≤
      count.toNat := by
    rw [List.length_nil]
    omega
  obtain ⟨next, htaken, hnext⟩ := Progress.holds_start.takeWords_good hclosed hfirst
  rw [List.nil_append] at hnext
  have hlines : linesOf newline stream.rest =
      (linesOf '\n' (closedLines text)).map Utf8.encode ++
        linesOf newline (Utf8.encode (openLine text) ++ trailing) := by
    rw [← linesOf_encode_append closedLines_closed, ← List.append_assoc,
      ← Utf8.encode_append, closedLines_append_openLine, hrest]
  rw [readIntegers_texts hroom hsteady hlines, htaken]
  by_cases hempty : words (openLine text) = []
  · rw [hempty, List.append_nil] at hsplit
    rw [hempty, List.length_nil, ← hnext.count] at hlength
    have hread := hnext.values_eq (hsplit ▸ hvalues)
    simp only [Progress.readLines_enough (by omega : ¬next.count < count.toNat), hread,
      if_pos hempty]
  · simp only [hnext.readLines_last hopen (List.length_append ▸ hlength) hempty
      newline_notMem_openLine (endsBlank_openLine hblank), if_neg hempty, ← hnext.count]
    cases Utf8.decode (Utf8.encode (openLine text) ++ takeLine newline trailing) with
    | error fault => rfl
    | ok whole =>
        obtain ⟨last, htaken, hlast⟩ := hnext.takeWords_good hopen hlength.le
        rw [hsplit] at hlast
        simp only [htaken, hlast.values_eq hvalues]

/-- Bytes behind the last integer are ignored unless they stand on its line and the rest of
that line is no text; the fault is then told in place of the integers. -/
theorem readIntegers_trailing_iff (hroom : reserve memory count = .ok ())
    (hsteady : stream.Steady) (hrest : stream.rest = Utf8.encode text ++ trailing)
    (hblank : EndsBlank text) (hvalues : (words text).map readInt32 = values.map .ok)
    (hcount : values.length = count.toNat) :
    ((stream.readIntegers memory count).1 = .ok values ↔
        words (openLine text) = [] ∨ ∃ more, takeLine newline trailing = Utf8.encode more) ∧
      ((stream.readIntegers memory count).1 ≠ .ok values →
        ∃ fault, Utf8.decode (Utf8.encode (openLine text) ++ takeLine newline trailing) =
            .error fault ∧
          (stream.readIntegers memory count).1 =
            .error (.badEncoding (words (closedLines text)).length fault)) := by
  rw [readIntegers_append hroom hsteady hrest hblank hvalues hcount]
  by_cases hempty : words (openLine text) = []
  · simp [hempty]
  · cases hdecode : Utf8.decode
        (Utf8.encode (openLine text) ++ takeLine newline trailing) with
    | error fault =>
        have hbroken : ¬∃ more, takeLine newline trailing = Utf8.encode more := by
          rintro ⟨more, hmore⟩
          rw [hmore, ← Utf8.encode_append, Utf8.decode_encode] at hdecode
          cases hdecode
        simp [hempty, hbroken]
    | ok whole =>
        obtain ⟨more, hmore, -⟩ := Utf8.decode_append_eq_ok_iff.mp hdecode
        simp [hempty, hmore]

theorem readIntegers_behind_line :
    ((ofBytes (Utf8.encode ['4', '\n', '7', ' '] ++ [0x38, 0x0A, 0xFF])).readIntegers
      Memory.usual 2).1 = .ok [4, 7] := by
  have hblank : EndsBlank ['4', '\n', '7', ' '] := by
    rintro c ⟨⟩
    rfl
  exact (readIntegers_trailing_iff rfl (steady_ofBytes _) rfl hblank rfl rfl).1.mpr
    (.inr ⟨['8', '\n'], rfl⟩)

theorem readIntegers_broken_line :
    reserve Memory.usual 1 = .ok () ∧ EndsBlank ['7', ' '] ∧
      (words ['7', ' ']).map readInt32 = [.ok 7] ∧
      ((ofBytes (Utf8.encode ['7', ' '] ++ [0xFF])).readIntegers Memory.usual 1).1 =
        .error (.badEncoding 0 ⟨2, some 1⟩) := by
  have hblank : EndsBlank ['7', ' '] := by
    rintro c ⟨⟩
    rfl
  have hvalues : (words ['7', ' ']).map readInt32 = [7].map .ok := rfl
  refine ⟨rfl, hblank, hvalues, ?_⟩
  exact readIntegers_append rfl (steady_ofBytes _) rfl hblank hvalues rfl

end Stream

end SegmentBench
