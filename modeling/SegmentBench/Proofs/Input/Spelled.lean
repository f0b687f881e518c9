import Mathlib.Data.List.Forall2
import SegmentBench.Proofs.Input.WholeText
import SegmentBench.Proofs.Text.Integers

/-!
# Integers by their spelling

A single word is read as the integer that it spells, when it spells one in range, and is
refused otherwise.  So a list of integers is read back from any text of their spellings with
blanks between them.
-/

namespace SegmentBench

open Numeral (readInt32 Spells)

namespace Stream

variable {stream : Stream} {memory : Memory} {count : UInt64} {text : List Char}

theorem readIntegers_word (hroom : reserve memory 1 = .ok ()) (hsteady : stream.Steady)
    (hword : SingleWord text) (hrest : stream.rest = Utf8.encode text) :
    (stream.readIntegers memory 1).1 =
      match readInt32 text with
      | .error fault => .error (.badInteger 0 (String.ofList text) fault)
      | .ok value => .ok [value] := by
  rw [readIntegers_text hroom hsteady hrest, hword.words_eq]
  cases hread : readInt32 text with
  | error fault => simp [Progress.takeWords, Progress.start, hread]
  | ok value => simp [Progress.takeWords, Progress.start, Progress.push, hread]

theorem readIntegers_spaced {tokens : List (List Char)} {values : List Int32}
    (hroom : reserve memory count = .ok ()) (hsteady : stream.Steady)
    (hrest : stream.rest = Utf8.encode text) (hcount : values.length = count.toNat)
    (hspells : List.Forall₂ (fun token value => Spells token (Int32.toInt value)) tokens values)
    (hspaced : Spaced tokens text) :
    (stream.readIntegers memory count).1 = .ok values := by
  have hwords : ∀ token ∈ tokens, SingleWord token := by
    have hboth := hspells.imp fun token value hvalue => And.intro hvalue.singleWord hvalue
    exact ((List.forall₂_and_left tokens values).mp hboth).1
  have hvalues : tokens.map readInt32 = values.map .ok := by
    rw [← List.forall₂_eq_eq_eq, List.forall₂_map_left_iff, List.forall₂_map_right_iff]
    exact hspells.imp fun token value => Numeral.readInt32_eq_ok_iff.mpr
  have hlength : tokens.length = count.toNat := hspells.length_eq.trans hcount
  obtain ⟨next, htaken, hnext⟩ := Progress.holds_start.takeWords_good
    (allIntegers_of_map values hvalues) (by rw [List.length_nil, Nat.zero_add, hlength])
  have henough : ¬next.count < count.toNat := by
    rw [hnext.count, List.nil_append, hlength]
    exact Nat.lt_irrefl _
  rw [readIntegers_text hroom hsteady hrest, hspaced.words_eq hwords, htaken]
  simp only [if_neg henough, hnext.values_eq hvalues]

/-- A word is read as the integer that it spells if that is in range, and in every other case
refused as the first; words that spell integers are read as these integers, whatever blanks
stand between them. -/
theorem readIntegers_spelled (memory : Memory) :
    (∀ (stream : Stream) (token : List Char), reserve memory 1 = .ok () → stream.Steady →
      SingleWord token → stream.rest = Utf8.encode token →
      (∀ number : Int,
        (∃ value, (stream.readIntegers memory 1).1 = .ok [value] ∧ value.toInt = number) ↔
          Spells token number ∧ -2 ^ 31 ≤ number ∧ number ≤ 2 ^ 31 - 1) ∧
      ((∃ fault, (stream.readIntegers memory 1).1 =
          .error (.badInteger 0 (String.ofList token) fault)) ↔
        ∀ number, Spells token number → ¬(-2 ^ 31 ≤ number ∧ number ≤ 2 ^ 31 - 1))) ∧
    ∀ (stream : Stream) (count : UInt64) (tokens : List (List Char)) (values : List Int32)
      (text : List Char), reserve memory count = .ok () → stream.Steady →
      stream.rest = Utf8.encode text → values.length = count.toNat →
      List.Forall₂ (fun token value => Spells token (Int32.toInt value)) tokens values →
      Spaced tokens text → (stream.readIntegers memory count).1 = .ok values := by
  refine ⟨?word, ?spaced⟩
  case word =>
    intro stream token hroom hsteady hword hrest
    rw [readIntegers_word hroom hsteady hword hrest]
    constructor
    · intro number
      rw [← Numeral.exists_readInt32_iff]
      cases readInt32 token <;> simp
    · rw [← Numeral.exists_readInt32_error_iff]
      cases readInt32 token <;> simp
  case spaced =>
    intro stream count tokens values text hroom hsteady hrest hcount hspells hspaced
    exact readIntegers_spaced hroom hsteady hrest hcount hspells hspaced

theorem readIntegers_spelled_borders :
    let least := "-0002147483648".toList
    let beyond := "2147483648".toList
    let values : List Int32 := [-2147483648, 7, 2147483647]
    let text := ' ' :: ("-2147483648".toList ++ '\u2003' :: '\n' :: ("7".toList ++ '\t' ::
      '\t' :: "2147483647".toList))
    (∃ value, ((ofBytes (Utf8.encode least)).readIntegers Memory.usual 1).1 = .ok [value] ∧
        value.toInt = -2147483648) ∧
      (∃ fault, ((ofBytes (Utf8.encode beyond)).readIntegers Memory.usual 1).1 =
        .error (.badInteger 0 (String.ofList beyond) fault)) ∧
      ((ofBytes (Utf8.encode text)).readIntegers Memory.usual 3).1 = .ok values := by
  intro least beyond values text
  obtain ⟨hword, hspaced⟩ := readIntegers_spelled Memory.usual
  have hleast := (hword _ least rfl (steady_ofBytes _) (by decide) rfl).1 (-2147483648)
  have hbeyond := (hword _ beyond rfl (steady_ofBytes _) (by decide) rfl).2
  refine ⟨hleast.mpr ⟨?_, by decide, by decide⟩, hbeyond.mpr ?_, ?_⟩
  · exact Numeral.spells_minus_iff.mpr ⟨⟨by decide, by decide⟩, by decide⟩
  · intro number hspells hrange
    have hnumber := ((Numeral.spells_plain_iff (by decide) (by decide)).mp hspells).2
    have hvalue : Nat.ofDigitChars 10 beyond 0 = 2147483648 := by decide
    omega
  · have hwritten : values.map (fun value => (Numeral.integer value.toInt).toList) =
        ["-2147483648".toList, "7".toList, "2147483647".toList] := by
      decide +kernel
    have hspells : List.Forall₂ (fun token value => Spells token (Int32.toInt value))
        (values.map fun value => (Numeral.integer value.toInt).toList) values :=
      List.forall₂_map_left_iff.mpr
        (List.forall₂_same.mpr fun value _ => Numeral.spells_integer value.toInt)
    rw [hwritten] at hspells
    have hblanks : Spaced ["-2147483648".toList, "7".toList, "2147483647".toList] text :=
      .blank rfl (.cons rfl (.blank rfl (.cons rfl (.blank rfl .last))))
    exact hspaced _ 3 _ values text rfl (steady_ofBytes _) rfl rfl hspells hblanks

end Stream

end SegmentBench
