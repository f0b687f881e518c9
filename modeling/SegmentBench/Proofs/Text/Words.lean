import SegmentBench.Text.Blank

/-!
# The words of a text

The words are the non-empty pieces between blank characters.  A text can therefore be
cut behind any blank without changing its words.
-/

namespace SegmentBench

theorem wordsFrom_eq (word : List Char) (done : List (List Char)) (text : List Char) :
    wordsFrom word done text =
      done.reverse ++ (text.splitOnPPrepend isBlank word).filter (!·.isEmpty) := by
  induction text generalizing word done with
  | nil => cases word <;> simp [wordsFrom]
  | cons c rest ih =>
      cases hblank : isBlank c with
      | true =>
          rw [wordsFrom, if_pos hblank, ih, List.splitOnPPrepend_cons_pos hblank]
          cases word <;> simp
      | false =>
          rw [wordsFrom, if_neg (by simp [hblank]), ih,
            List.splitOnPPrepend_cons_neg hblank]

/-- Words are the pieces between blanks that are not empty. -/
theorem words_eq_filter (text : List Char) :
    words text = (text.splitOnP isBlank).filter (!·.isEmpty) := by
  simpa [words] using wordsFrom_eq [] [] text

@[simp] theorem words_nil : words [] = [] := rfl

theorem words_append_cons {c : Char} (hblank : isBlank c) (first second : List Char) :
    words (first ++ c :: second) = words first ++ words second := by
  simp only [words_eq_filter]
  rw [List.splitOnP_append_cons first second hblank, List.filter_append]

structure SingleWord (text : List Char) : Prop where
  nonempty : text ≠ []
  unbroken : ∀ c ∈ text, isBlank c = false

theorem singleWord_iff {text : List Char} :
    (!text.isEmpty && text.all (!isBlank ·)) = true ↔ SingleWord text := by
  rw [Bool.and_eq_true, Bool.not_eq_true', List.isEmpty_eq_false_iff, List.all_eq_true]
  constructor
  · rintro ⟨hnonempty, hunbroken⟩
    exact ⟨hnonempty, by simpa using hunbroken⟩
  · intro hword
    exact ⟨hword.nonempty, by simpa using hword.unbroken⟩

instance (text : List Char) : Decidable (SingleWord text) := decidable_of_iff _ singleWord_iff

theorem SingleWord.append {first second : List Char} (hfirst : SingleWord first)
    (hsecond : ∀ c ∈ second, isBlank c = false) : SingleWord (first ++ second) where
  nonempty := List.append_ne_nil_of_left_ne_nil hfirst.nonempty second
  unbroken := List.forall_mem_append.mpr ⟨hfirst.unbroken, hsecond⟩

theorem SingleWord.cons {c : Char} {word : List Char} (hc : isBlank c = false)
    (hword : SingleWord word) : SingleWord (c :: word) where
  nonempty := List.cons_ne_nil c word
  unbroken := List.forall_mem_cons.mpr ⟨hc, hword.unbroken⟩

theorem SingleWord.words_eq {word : List Char} (hword : SingleWord word) : words word = [word] := by
  rw [words_eq_filter, List.splitOnP_eq_singleton hword.unbroken]
  simp [hword.nonempty]

theorem SingleWord.notMem {word : List Char} (hword : SingleWord word) {c : Char}
    (hblank : isBlank c = true) : c ∉ word := by
  intro hmem
  rw [hword.unbroken c hmem] at hblank
  cases hblank

theorem words_intercalate {tokens : List (List Char)}
    (htokens : ∀ token ∈ tokens, SingleWord token) :
    words ([' '].intercalate tokens) = tokens := by
  induction tokens with
  | nil => rfl
  | cons token tokens ih =>
      obtain ⟨htoken, hothers⟩ := List.forall_mem_cons.mp htokens
      cases tokens with
      | nil => simpa using htoken.words_eq
      | cons next tokens =>
          rw [List.intercalate_cons_cons, List.append_assoc, List.singleton_append,
            words_append_cons (by decide), htoken.words_eq, ih hothers, List.singleton_append]

theorem notMem_intercalate {mark : List Char} {texts : List (List Char)} {c : Char}
    (hmark : c ∉ mark) (htexts : ∀ text ∈ texts, c ∉ text) : c ∉ mark.intercalate texts := by
  induction texts with
  | nil => simp
  | cons text texts ih =>
      obtain ⟨htext, hothers⟩ := List.forall_mem_cons.mp htexts
      cases texts with
      | nil => simpa using htext
      | cons next texts =>
          rw [List.intercalate_cons_cons, List.mem_append, List.mem_append, not_or, not_or]
          exact ⟨⟨htext, hmark⟩, ih hothers⟩

def EndsBlank (text : List Char) : Prop := ∀ c ∈ text.getLast?, isBlank c

theorem words_append {first : List Char} (hblank : EndsBlank first)
    (second : List Char) : words (first ++ second) = words first ++ words second := by
  cases hlast : first.getLast? with
  | none =>
      rw [List.getLast?_eq_none_iff.mp hlast]
      rfl
  | some c =>
      obtain ⟨before, rfl⟩ := List.getLast?_eq_some_iff.mp hlast
      have hc : isBlank c := hblank c hlast
      have hbefore : words (before ++ [c]) = words before := by
        simpa using words_append_cons hc before []
      rw [hbefore, List.append_assoc, List.singleton_append, words_append_cons hc]

/-- The words in their order with blanks between two of them, and perhaps in front of the
first and behind the last. -/
inductive Spaced : List (List Char) → List Char → Prop where
  | nil : Spaced [] []
  | blank {c : Char} {tokens : List (List Char)} {text : List Char} (blank : isBlank c = true)
      (others : Spaced tokens text) : Spaced tokens (c :: text)
  | last {token : List Char} : Spaced [token] token
  | cons {token : List Char} {c : Char} {tokens : List (List Char)} {text : List Char}
      (blank : isBlank c = true) (others : Spaced tokens text) :
      Spaced (token :: tokens) (token ++ c :: text)

theorem Spaced.words_eq {tokens : List (List Char)} {text : List Char}
    (hspaced : Spaced tokens text) (htokens : ∀ token ∈ tokens, SingleWord token) :
    words text = tokens := by
  induction hspaced with
  | nil => rfl
  | @blank c tokens text hblank others ih =>
      rw [← List.nil_append (c :: text), words_append_cons hblank, ih htokens]
      rfl
  | last => exact (htokens _ List.mem_cons_self).words_eq
  | cons hblank others ih =>
      obtain ⟨htoken, hothers⟩ := List.forall_mem_cons.mp htokens
      rw [words_append_cons hblank, htoken.words_eq, ih hothers, List.singleton_append]

end SegmentBench
