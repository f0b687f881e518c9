import Mathlib.Data.List.Basic
import SegmentBench.Proofs.Results
import SegmentBench.Proofs.Text.Numerals
import SegmentBench.Text.Quoted

/-!
# Quoted text read back

The form of a character tells where it ends, and no form begins with a double quote.  So the
first double quote that begins no form is the end of a quoted text, whatever stands behind it.
What is quoted is on one line: every character of a form has a shape of its own.
-/

namespace SegmentBench

/-! ## Characters with a shape -/

def IsControl (c : Char) : Prop := c.toNat < 0x20 ∨ 0x7F ≤ c.toNat ∧ c.toNat < 0xA0

instance (c : Char) : Decidable (IsControl c) := inferInstanceAs (Decidable (_ ∨ _))

/-- The characters behind which Unicode always begins a new line. -/
def breaksLine (c : Char) : Bool :=
  c ∈ ['\n', '\x0b', '\x0c', '\r', '\u0085', '\u2028', '\u2029']

variable {c : Char}

theorem not_isControl_of_isGraphic (hgraphic : isGraphic c = true) : ¬IsControl c := by
  intro hcontrol
  have hall : ∀ code < 0xA0, code < 0x20 ∨ 0x7F ≤ code → nonGraphic.has code = true := by
    decide +kernel
  have hranges : nonGraphic.has c.toNat = true := by
    obtain hlow | ⟨hlow, hhigh⟩ := hcontrol
    · exact hall c.toNat (by omega) (.inl hlow)
    · exact hall c.toNat hhigh (.inr hlow)
  rw [isGraphic, hranges] at hgraphic
  cases hgraphic

theorem breaksLine_of_isGraphic (hgraphic : isGraphic c = true) : breaksLine c = false := by
  have hall : ∀ c ∈ ['\n', '\x0b', '\x0c', '\r', '\u0085', '\u2028', '\u2029'],
      isGraphic c = false := by
    decide +kernel
  rw [breaksLine, decide_eq_false_iff_not]
  intro hmem
  rw [hall c hmem] at hgraphic
  cases hgraphic

namespace Quoted

/-! ## Reading one character -/

def short? : Char → Option Char
  | '0' => some '\x00'
  | 't' => some '\t'
  | 'n' => some '\n'
  | 'r' => some '\r'
  | '"' => some '"'
  | '\\' => some '\\'
  | _ => none

def code? (text : List Char) : Option (Char × List Char) :=
  match text.dropWhile (· ≠ '}') with
  | [] => none
  | _ :: rest => some (Char.ofNat (Numeral.append 16 0 (text.takeWhile (· ≠ '}'))), rest)

def character? : List Char → Option (Char × List Char)
  | [] => none
  | '\\' :: 'u' :: '{' :: rest => code? rest
  | '\\' :: c :: rest => (short? c).map fun meant => (meant, rest)
  | c :: rest => some (c, rest)

variable {d : Char}

theorem closing_notMem_digits (value : Nat) : '}' ∉ Numeral.digits 16 value := by
  intro hmem
  obtain ⟨last, hlast, hdigit⟩ := Numeral.exists_digit_of_mem_digits (by decide) hmem
  have hall : ∀ last < 16, '}' ≠ Numeral.digit last := by decide
  exact hall last hlast hdigit

@[simp] theorem code?_suffix (c : Char) (rest : List Char) :
    code? (Numeral.digits 16 c.toNat ++ '}' :: rest) = some (c, rest) := by
  have hdigits : ∀ digit ∈ Numeral.digits 16 c.toNat, decide (digit ≠ '}') = true := by
    intro digit hmem
    exact decide_eq_true (ne_of_mem_of_not_mem hmem (closing_notMem_digits _))
  have hvalue : Numeral.append 16 0 (Numeral.digits 16 c.toNat) = c.toNat :=
    Numeral.append_digits_of_le (by decide) (by decide) _
  rw [code?, List.dropWhile_append_of_pos hdigits, List.takeWhile_append_of_pos hdigits]
  simp [hvalue]

@[simp] theorem character?_suffix (c : Char) (rest : List Char) :
    character? (character c ++ rest) = some (c, rest) := by
  unfold character
  split_ifs with hnul htab hnewline hreturn hquote hbackslash hshape
  · simp [character?, short?, hnul]
  · simp [character?, short?, htab]
  · simp [character?, short?, hnewline]
  · simp [character?, short?, hreturn]
  · simp [character?, short?, hquote]
  · simp [character?, short?, hbackslash]
  · simp [character?, codePoint]
  · simp [character?, hbackslash]

theorem character_append_inj {first second : List Char}
    (hforms : character c ++ first = character d ++ second) : c = d ∧ first = second := by
  have hread := character?_suffix c first
  rw [hforms, character?_suffix] at hread
  cases hread
  exact ⟨rfl, rfl⟩

/-! ## The end of the text -/

theorem head?_character_ne (c : Char) (rest : List Char) :
    (character c ++ rest).head? ≠ some '"' := by
  unfold character
  split_ifs with hnul htab hnewline hreturn hquote hbackslash hshape
  iterate 6 simp
  · simp [codePoint]
  · simpa using hquote

theorem flatMap_cons_ne (c : Char) (text before behind : List Char) :
    (c :: text).flatMap character ++ before ≠ '"' :: behind := by
  intro heq
  have hhead := head?_character_ne c (text.flatMap character ++ before)
  rw [← List.append_assoc, ← List.flatMap_cons, heq] at hhead
  exact hhead rfl

theorem flatMap_append_inj {first second before behind : List Char}
    (hforms : first.flatMap character ++ '"' :: before =
      second.flatMap character ++ '"' :: behind) :
    first = second ∧ before = behind := by
  induction first generalizing second with
  | nil =>
      cases second with
      | nil => simpa using hforms
      | cons d second => exact absurd hforms.symm (flatMap_cons_ne d second _ before)
  | cons c first ih =>
      cases second with
      | nil => exact absurd hforms (flatMap_cons_ne c first _ behind)
      | cons d second =>
          rw [List.flatMap_cons, List.flatMap_cons, List.append_assoc, List.append_assoc] at hforms
          obtain ⟨rfl, hrest⟩ := character_append_inj hforms
          obtain ⟨rfl, rfl⟩ := ih hrest
          exact ⟨rfl, rfl⟩

/-! ## Shapes -/

theorem isGraphic_digit {last : Nat} (hlast : last < 16) :
    isGraphic (Numeral.digit last) = true := by
  have hall : ∀ last < 16, isGraphic (Numeral.digit last) = true := by decide
  exact hall last hlast

theorem isGraphic_codePoint (c : Char) : ∀ d ∈ codePoint c, isGraphic d = true := by
  have hopening : ∀ d ∈ ['\\', 'u', '{'], isGraphic d = true := by decide
  have hclosing : ∀ d ∈ ['}'], isGraphic d = true := by decide
  intro d hmem
  rw [codePoint, List.mem_append, List.mem_append] at hmem
  obtain (hmem | hmem) | hmem := hmem
  · exact hopening d hmem
  · obtain ⟨last, hlast, rfl⟩ := Numeral.exists_digit_of_mem_digits (by decide) hmem
    exact isGraphic_digit hlast
  · exact hclosing d hmem

theorem isGraphic_character (c : Char) : ∀ d ∈ character c, isGraphic d = true := by
  unfold character
  split_ifs with hnul htab hnewline hreturn hquote hbackslash hshape
  iterate 6 decide
  · exact isGraphic_codePoint c
  · simp only [Bool.or_eq_true, Bool.not_eq_true', not_or, Bool.not_eq_false] at hshape
    exact List.forall_mem_singleton.mpr hshape.2

end Quoted

/-- Two quoted texts are told apart by what they quote, and from what stands behind them. -/
theorem quoted_append_inj {first second before behind : List Char}
    (htexts : quoted first ++ before = quoted second ++ behind) :
    first = second ∧ before = behind := by
  refine Quoted.flatMap_append_inj ?_
  simpa [quoted] using htexts

theorem isGraphic_quoted (text : List Char) : ∀ c ∈ quoted text, isGraphic c = true := by
  have hquote : isGraphic '"' = true := by decide
  intro c hmem
  rw [quoted, List.mem_append, List.mem_cons, List.mem_flatMap, List.mem_singleton] at hmem
  obtain (rfl | ⟨d, -, hmem⟩) | rfl := hmem
  · exact hquote
  · exact Quoted.isGraphic_character d c hmem
  · exact hquote

end SegmentBench
