import SegmentBench.Input.Stream
import SegmentBench.Proofs.Text.Utf8
import SegmentBench.Proofs.Text.Words

/-!
# Lines

A list is cut into lines behind each occurrence of a mark.  The cut commutes with the
encoding of texts, and the words of a text are those of its lines, one after the other.
-/

namespace SegmentBench

section Marks

variable {α : Type} [DecidableEq α]

def takeLine (mark : α) : List α → List α
  | [] => []
  | a :: rest => if a = mark then [a] else a :: takeLine mark rest

def dropLine (mark : α) : List α → List α
  | [] => []
  | a :: rest => if a = mark then rest else dropLine mark rest

@[simp] theorem takeLine_nil (mark : α) : takeLine mark [] = [] := rfl

@[simp] theorem dropLine_nil (mark : α) : dropLine mark [] = [] := rfl

@[simp] theorem takeLine_mark (mark : α) (rest : List α) :
    takeLine mark (mark :: rest) = [mark] := by
  simp [takeLine]

@[simp] theorem dropLine_mark (mark : α) (rest : List α) :
    dropLine mark (mark :: rest) = rest := by
  simp [dropLine]

theorem takeLine_append_dropLine (mark : α) (text : List α) :
    takeLine mark text ++ dropLine mark text = text := by
  induction text with
  | nil => rfl
  | cons a rest ih =>
      simp only [takeLine, dropLine]
      split
      · rfl
      · rw [List.cons_append, ih]

theorem takeLine_append_of_notMem {mark : α} {first : List α} (hfirst : mark ∉ first)
    (second : List α) :
    takeLine mark (first ++ second) = first ++ takeLine mark second := by
  induction first with
  | nil => rfl
  | cons a first ih =>
      obtain ⟨hne, hrest⟩ := not_or.mp (mt List.mem_cons.mpr hfirst)
      simp [takeLine, Ne.symm hne, ih hrest]

theorem dropLine_append_of_notMem {mark : α} {first : List α} (hfirst : mark ∉ first)
    (second : List α) : dropLine mark (first ++ second) = dropLine mark second := by
  induction first with
  | nil => rfl
  | cons a first ih =>
      obtain ⟨hne, hrest⟩ := not_or.mp (mt List.mem_cons.mpr hfirst)
      simp [dropLine, Ne.symm hne, ih hrest]

theorem takeLine_append_of_mem {mark : α} {first : List α} (hfirst : mark ∈ first)
    (second : List α) : takeLine mark (first ++ second) = takeLine mark first := by
  induction first with
  | nil => cases hfirst
  | cons a first ih =>
      by_cases ha : a = mark
      · simp [takeLine, ha]
      · simp [takeLine, ha, ih ((List.mem_cons.mp hfirst).resolve_left (Ne.symm ha))]

theorem dropLine_append_of_mem {mark : α} {first : List α} (hfirst : mark ∈ first)
    (second : List α) :
    dropLine mark (first ++ second) = dropLine mark first ++ second := by
  induction first with
  | nil => cases hfirst
  | cons a first ih =>
      by_cases ha : a = mark
      · simp [dropLine, ha]
      · simp [dropLine, ha, ih ((List.mem_cons.mp hfirst).resolve_left (Ne.symm ha))]

theorem takeLine_ne_nil (mark : α) {text : List α} (hnonempty : text ≠ []) :
    takeLine mark text ≠ [] := by
  cases text with
  | nil => exact absurd rfl hnonempty
  | cons a rest =>
      simp only [takeLine]
      split <;> simp

theorem length_dropLine_lt {mark : α} {text : List α} (hnonempty : text ≠ []) :
    (dropLine mark text).length < text.length := by
  have hlength := congrArg List.length (takeLine_append_dropLine mark text)
  have htake := List.length_pos_iff.mpr (takeLine_ne_nil mark hnonempty)
  rw [List.length_append] at hlength
  omega

theorem getLast?_takeLine (mark : α) (text : List α) :
    (takeLine mark text).getLast? = some mark ∨ dropLine mark text = [] := by
  induction text with
  | nil => exact .inr rfl
  | cons a rest ih =>
      simp only [takeLine, dropLine]
      split
      · rename_i heq
        exact .inl (by simp [heq])
      · refine ih.imp_left fun hlast => ?_
        simp [List.getLast?_cons, hlast]

def linesOf (mark : α) (text : List α) : List (List α) :=
  if text = [] then [] else takeLine mark text :: linesOf mark (dropLine mark text)
termination_by text.length
decreasing_by exact length_dropLine_lt ‹_›

@[simp] theorem linesOf_nil (mark : α) : linesOf mark [] = [] := by
  rw [linesOf, if_pos rfl]

theorem linesOf_eq_cons {mark : α} {text : List α} (hnonempty : text ≠ []) :
    linesOf mark text = takeLine mark text :: linesOf mark (dropLine mark text) := by
  rw [linesOf, if_neg hnonempty]

theorem ne_nil_of_mem_linesOf {mark : α} {text line : List α}
    (hline : line ∈ linesOf mark text) : line ≠ [] := by
  fun_induction linesOf mark text with
  | case1 => cases hline
  | case2 text hnonempty ih =>
      rcases List.mem_cons.mp hline with rfl | hlater
      · exact takeLine_ne_nil mark hnonempty
      · exact ih hlater

@[simp] theorem flatten_linesOf (mark : α) (text : List α) :
    (linesOf mark text).flatten = text := by
  fun_induction linesOf mark text with
  | case1 => rfl
  | case2 text hnonempty ih => rw [List.flatten_cons, ih, takeLine_append_dropLine]

theorem linesOf_append {mark : α} {first : List α}
    (hclosed : ∀ a ∈ first.getLast?, a = mark) (second : List α) :
    linesOf mark (first ++ second) = linesOf mark first ++ linesOf mark second := by
  fun_induction linesOf mark first with
  | case1 => rfl
  | case2 first hnonempty ih =>
      have hmark : mark ∈ first := by
        have hlast := List.getLast?_eq_some_getLast hnonempty
        exact hclosed _ hlast ▸ List.getLast_mem hnonempty
      have hrest : ∀ a ∈ (dropLine mark first).getLast?, a = mark := by
        intro a ha
        apply hclosed a
        rw [← takeLine_append_dropLine mark first, List.getLast?_append, ha]
        rfl
      have happend : first ++ second ≠ [] := by simp [hnonempty]
      rw [linesOf_eq_cons happend, takeLine_append_of_mem hmark,
        dropLine_append_of_mem hmark, ih hrest, List.cons_append]

end Marks

/-! ## Lines of encoded texts -/

theorem encodeChar_newline : String.utf8EncodeChar '\n' = [Stream.newline] := by decide

theorem newline_notMem_encodeChar {c : Char} (hne : c ≠ '\n') :
    Stream.newline ∉ String.utf8EncodeChar c := fun hmem =>
  hne (Char.toNat_inj.mp (Utf8.toNat_of_mem_encodeChar (by decide) hmem))

theorem newline_notMem_encode {text : List Char} (htext : '\n' ∉ text) :
    Stream.newline ∉ Utf8.encode text := fun hmem =>
  htext (Utf8.mem_of_mem_encode (by decide) (by decide) hmem)

theorem takeLine_encode (text : List Char) :
    takeLine Stream.newline (Utf8.encode text) = Utf8.encode (takeLine '\n' text) := by
  induction text with
  | nil => rfl
  | cons c rest ih =>
      by_cases hc : c = '\n'
      · subst hc
        simp [encodeChar_newline]
      · rw [Utf8.encode_cons, takeLine_append_of_notMem (newline_notMem_encodeChar hc), ih,
          takeLine, if_neg hc, Utf8.encode_cons]

theorem dropLine_encode (text : List Char) :
    dropLine Stream.newline (Utf8.encode text) = Utf8.encode (dropLine '\n' text) := by
  induction text with
  | nil => rfl
  | cons c rest ih =>
      by_cases hc : c = '\n'
      · subst hc
        simp [encodeChar_newline]
      · rw [Utf8.encode_cons, dropLine_append_of_notMem (newline_notMem_encodeChar hc), ih,
          dropLine, if_neg hc]

theorem encode_eq_nil_iff {text : List Char} : Utf8.encode text = [] ↔ text = [] := by
  cases text <;> simp

theorem linesOf_encode (text : List Char) :
    linesOf Stream.newline (Utf8.encode text) = (linesOf '\n' text).map Utf8.encode := by
  fun_induction linesOf '\n' text with
  | case1 => simp
  | case2 text hnonempty ih =>
      rw [linesOf_eq_cons (mt encode_eq_nil_iff.mp hnonempty), takeLine_encode,
        dropLine_encode, ih, List.map_cons]

theorem linesOf_encode_append {first : List Char}
    (hclosed : ∀ c ∈ first.getLast?, c = '\n') (bytes : Bytes) :
    linesOf Stream.newline (Utf8.encode first ++ bytes) =
      (linesOf '\n' first).map Utf8.encode ++ linesOf Stream.newline bytes := by
  have hencoded : ∀ b ∈ (Utf8.encode first).getLast?, b = Stream.newline := by
    cases hlast : first.getLast? with
    | none => simp [List.getLast?_eq_none_iff.mp hlast]
    | some c =>
        obtain ⟨before, rfl⟩ := List.getLast?_eq_some_iff.mp hlast
        simp [hclosed c hlast, encodeChar_newline]
  rw [linesOf_append hencoded, linesOf_encode]

/-! ## Words of lines -/

theorem words_linesOf (text : List Char) :
    (linesOf '\n' text).flatMap words = words text := by
  fun_induction linesOf '\n' text with
  | case1 => rfl
  | case2 text hnonempty ih =>
      rw [List.flatMap_cons, ih]
      rw [← congrArg words (takeLine_append_dropLine '\n' text)]
      rcases getLast?_takeLine '\n' text with hlast | hrest
      · rw [words_append (by simp [EndsBlank, hlast, isBlank])]
      · simp [hrest]

end SegmentBench
