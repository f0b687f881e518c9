import SegmentBench.Text.Utf8

/-!
# Strict reading of UTF-8

The strict reader accepts exactly the encodings of texts, and returns the text.
-/

namespace SegmentBench.Utf8

/-! ## First bytes -/

theorem lead_one {b : UInt8} (hb : b.toNat < 0x80) :
    lead b = .character (Char.ofNat b.toNat) := by
  simp [lead, hb]

theorem lead_two {b : UInt8} (hlow : 0xC2 ≤ b.toNat) (hhigh : b.toNat < 0xE0) :
    lead b = .pending ⟨b.toNat - 0xC0, [b], 0, 0x80, 0xBF⟩ := by
  have hone : ¬b.toNat < 0x80 := by omega
  have htail : ¬b.toNat < 0xC2 := by omega
  simp only [lead, hone, htail, hhigh, if_true, if_false]

theorem lead_three {b : UInt8} (hlow : 0xE0 ≤ b.toNat) (hhigh : b.toNat < 0xF0) :
    lead b = .pending ⟨b.toNat - 0xE0, [b], 1, if b.toNat = 0xE0 then 0xA0 else 0x80,
      if b.toNat = 0xED then 0x9F else 0xBF⟩ := by
  have hone : ¬b.toNat < 0x80 := by omega
  have htail : ¬b.toNat < 0xC2 := by omega
  have htwo : ¬b.toNat < 0xE0 := by omega
  simp only [lead, hone, htail, htwo, hhigh, if_true, if_false]
  split
  · rename_i heq
    simp [heq]
  · split
    · rename_i heq
      simp [heq]
    · rfl

theorem lead_four {b : UInt8} (hlow : 0xF0 ≤ b.toNat) (hhigh : b.toNat ≤ 0xF4) :
    lead b = .pending ⟨b.toNat - 0xF0, [b], 2, if b.toNat = 0xF0 then 0x90 else 0x80,
      if b.toNat = 0xF4 then 0x8F else 0xBF⟩ := by
  have hone : ¬b.toNat < 0x80 := by omega
  have htail : ¬b.toNat < 0xC2 := by omega
  have htwo : ¬b.toNat < 0xE0 := by omega
  have he0 : ¬b.toNat = 0xE0 := by omega
  have hed : ¬b.toNat = 0xED := by omega
  have hthree : ¬b.toNat < 0xF0 := by omega
  simp only [lead, hone, htail, htwo, he0, hed, hthree, if_false]
  split
  · rename_i heq
    simp [heq]
  · split
    · rename_i hlt
      have hne : ¬b.toNat = 0xF4 := by omega
      simp [hne]
    · have heq : b.toNat = 0xF4 := by omega
      simp [heq]

theorem lead_invalid {b : UInt8} (hlow : 0x80 ≤ b.toNat)
    (hout : b.toNat < 0xC2 ∨ 0xF4 < b.toNat) : lead b = .invalid := by
  simp only [lead]
  repeat' split
  all_goals first | rfl | omega

/-! ## Sequences of one character -/

def IsTail (b : UInt8) : Prop := 0x80 ≤ b.toNat ∧ b.toNat ≤ 0xBF

/-- The well-formed bytes of a character.  The bounds that follow the tails leave out
overlong forms, surrogates and code points above U+10FFFF. -/
inductive Sequence (c : Char) : Bytes → Prop
  | one {a : UInt8} (ascii : a.toNat < 0x80) (value : c.toNat = a.toNat) : Sequence c [a]
  | two {a b : UInt8} (low : 0xC2 ≤ a.toNat) (high : a.toNat < 0xE0) (second : IsTail b)
      (value : c.toNat = (a.toNat - 0xC0) * 64 + (b.toNat - 0x80)) : Sequence c [a, b]
  | three {a b d : UInt8} (low : 0xE0 ≤ a.toNat) (high : a.toNat < 0xF0)
      (second : IsTail b) (third : IsTail d) (short : a.toNat = 0xE0 → 0xA0 ≤ b.toNat)
      (surrogate : a.toNat = 0xED → b.toNat ≤ 0x9F)
      (value : c.toNat =
        ((a.toNat - 0xE0) * 64 + (b.toNat - 0x80)) * 64 + (d.toNat - 0x80)) :
      Sequence c [a, b, d]
  | four {a b d e : UInt8} (low : 0xF0 ≤ a.toNat) (high : a.toNat ≤ 0xF4)
      (second : IsTail b) (third : IsTail d) (fourth : IsTail e)
      (short : a.toNat = 0xF0 → 0x90 ≤ b.toNat)
      (greatest : a.toNat = 0xF4 → b.toNat ≤ 0x8F)
      (value : c.toNat =
        (((a.toNat - 0xF0) * 64 + (b.toNat - 0x80)) * 64 + (d.toNat - 0x80)) * 64
          + (e.toNat - 0x80)) :
      Sequence c [a, b, d, e]

theorem sequence_encode (c : Char) : Sequence c (String.utf8EncodeChar c) := by
  have hvalid : c.toNat.isValidChar := c.valid
  have hvalue : c.val.toNat = c.toNat := rfl
  simp only [String.utf8EncodeChar, Nat.isValidChar, hvalue] at hvalid ⊢
  split
  · exact .one (by simp; omega) (by simp; omega)
  split
  · exact .two (by simp; omega) (by simp; omega) (by simp [IsTail]; omega) (by simp; omega)
  split
  · exact .three (by simp; omega) (by simp; omega) (by simp [IsTail]; omega)
      (by simp [IsTail]; omega) (by simp; omega) (by simp; omega) (by simp; omega)
  · exact .four (by simp; omega) (by simp; omega) (by simp [IsTail]; omega)
      (by simp [IsTail]; omega) (by simp [IsTail]; omega) (by simp; omega)
      (by simp; omega) (by simp; omega)

theorem toNat_of_mem_encodeChar {c : Char} {b : UInt8} (hascii : b.toNat < 0x80)
    (hmem : b ∈ String.utf8EncodeChar c) : c.toNat = b.toNat := by
  have hsequence := sequence_encode c
  generalize String.utf8EncodeChar c = bytes at hmem hsequence
  cases hsequence with
  | one ascii value => rw [value, List.mem_singleton.mp hmem]
  | two low high second value =>
      simp only [List.mem_cons, List.not_mem_nil, or_false, ← UInt8.toNat_inj] at hmem
      have := second.1
      omega
  | three low high second third short surrogate value =>
      simp only [List.mem_cons, List.not_mem_nil, or_false, ← UInt8.toNat_inj] at hmem
      have := second.1
      have := third.1
      omega
  | four low high second third fourth short greatest value =>
      simp only [List.mem_cons, List.not_mem_nil, or_false, ← UInt8.toNat_inj] at hmem
      have := second.1
      have := third.1
      have := fourth.1
      omega

private theorem ofNat_eq_iff {value : Nat} {b : UInt8} :
    UInt8.ofNat value = b ↔ value % 256 = b.toNat := by
  rw [← UInt8.toNat_inj, UInt8.toNat_ofNat']

theorem Sequence.encode {c : Char} {bytes : Bytes} (hsequence : Sequence c bytes) :
    String.utf8EncodeChar c = bytes := by
  have hvalue : c.val.toNat = c.toNat := rfl
  simp only [String.utf8EncodeChar, hvalue]
  cases hsequence with
  | one ascii value =>
      rw [if_pos (by omega)]
      simp only [List.cons.injEq, ofNat_eq_iff, eq_self, and_true]
      omega
  | two low high second value =>
      obtain ⟨hsecondLow, hsecondHigh⟩ := second
      rw [if_neg (by omega), if_pos (by omega)]
      simp only [List.cons.injEq, ofNat_eq_iff, eq_self, and_true]
      omega
  | three low high second third short surrogate value =>
      obtain ⟨hsecondLow, hsecondHigh⟩ := second
      obtain ⟨hthirdLow, hthirdHigh⟩ := third
      rw [if_neg (by omega), if_neg (by omega), if_pos (by omega)]
      simp only [List.cons.injEq, ofNat_eq_iff, eq_self, and_true]
      omega
  | four low high second third fourth short greatest value =>
      obtain ⟨hsecondLow, hsecondHigh⟩ := second
      obtain ⟨hthirdLow, hthirdHigh⟩ := third
      obtain ⟨hfourthLow, hfourthHigh⟩ := fourth
      rw [if_neg (by omega), if_neg (by omega), if_neg (by omega)]
      simp only [List.cons.injEq, ofNat_eq_iff, eq_self, and_true]
      omega

/-! ## Reading a sequence -/

theorem ofNat_eq_of_toNat {c : Char} {value : Nat} (hvalue : c.toNat = value) :
    Char.ofNat value = c := by
  rw [← hvalue, Char.ofNat_toNat]

theorem exists_char (value : Nat) (hvalid : value.isValidChar) :
    ∃ c : Char, c.toNat = value := by
  refine ⟨Char.ofNat value, ?_⟩
  rw [Char.ofNat, dif_pos hvalid]
  rfl

theorem admits_iff (state : Pending) (b : UInt8) :
    state.admits b = true ↔ state.low.toNat ≤ b.toNat ∧ b.toNat ≤ state.high.toNat := by
  simp [Pending.admits, UInt8.le_iff_toNat_le]

theorem narrowed_iff {p q : Prop} [Decidable p] [Decidable q] (low high : UInt8)
    (hlow : 0x80 ≤ low.toNat) (hhigh : high.toNat ≤ 0xBF) (b : UInt8) :
    ((if p then low else 0x80).toNat ≤ b.toNat ∧
        b.toNat ≤ (if q then high else 0xBF).toNat) ↔
      IsTail b ∧ (p → low.toNat ≤ b.toNat) ∧ (q → b.toNat ≤ high.toNat) := by
  unfold IsTail
  by_cases hp : p <;> by_cases hq : q <;>
    simp only [hp, hq, if_true, if_false, true_imp_iff, false_imp_iff, and_true, true_and,
      UInt8.reduceToNat] <;> omega

theorem decodeFrom_sequence {c : Char} {bytes : Bytes} (hsequence : Sequence c bytes)
    (index : Nat) (read : List Char) (rest : Bytes) :
    decodeFrom index none read (bytes ++ rest) =
      decodeFrom (index + bytes.length) none (c :: read) rest := by
  cases hsequence with
  | one ascii value =>
      simp [decodeFrom, lead_one ascii, ofNat_eq_of_toNat value]
  | two low high second value =>
      simp [decodeFrom, lead_two low high, admits_iff, Pending.push, second.1, second.2,
        ofNat_eq_of_toNat value]
  | @three a b d low high second third short surrogate value =>
      have hsecond := (narrowed_iff 0xA0 0x9F (by decide) (by decide) b).mpr
        ⟨second, short, surrogate⟩
      simp [decodeFrom, lead_three low high, admits_iff, Pending.push, hsecond.1, hsecond.2,
        third.1, third.2, ofNat_eq_of_toNat value]
  | @four a b d e low high second third fourth short greatest value =>
      have hsecond := (narrowed_iff 0x90 0x8F (by decide) (by decide) b).mpr
        ⟨second, short, greatest⟩
      simp [decodeFrom, lead_four low high, admits_iff, Pending.push, hsecond.1, hsecond.2,
        third.1, third.2, fourth.1, fourth.2, ofNat_eq_of_toNat value]

theorem exists_admitted {index : Nat} {state : Pending} {read text : List Char}
    {bytes : Bytes} (hread : decodeFrom index (some state) read bytes = .ok text) :
    ∃ b rest, bytes = b :: rest ∧
      (state.low.toNat ≤ b.toNat ∧ b.toNat ≤ state.high.toNat) ∧
      ∀ next, state.push b = .pending next →
        decodeFrom (index + 1) (some next) read rest = .ok text := by
  cases bytes with
  | nil => simp [decodeFrom] at hread
  | cons b rest =>
      simp only [decodeFrom] at hread
      split at hread
      · rename_i hadmits
        refine ⟨b, rest, rfl, (admits_iff state b).mp hadmits, ?_⟩
        intro next hpush
        simpa only [hpush] using hread
      · cases hread

theorem exists_sequence {index : Nat} {read text : List Char} {b : UInt8} {rest : Bytes}
    (hread : decodeFrom index none read (b :: rest) = .ok text) :
    ∃ c bytes tail, Sequence c bytes ∧ b :: rest = bytes ++ tail := by
  by_cases hone : b.toNat < 0x80
  · obtain ⟨c, hvalue⟩ := exists_char b.toNat (by
      simp only [Nat.isValidChar]
      omega)
    exact ⟨c, [b], rest, .one hone hvalue, rfl⟩
  by_cases hinvalid : b.toNat < 0xC2 ∨ 0xF4 < b.toNat
  · simp [decodeFrom, lead_invalid (Nat.not_lt.mp hone) hinvalid] at hread
  by_cases htwo : b.toNat < 0xE0
  · have hlow : 0xC2 ≤ b.toNat := by omega
    simp only [decodeFrom, lead_two hlow htwo] at hread
    obtain ⟨d, rest, rfl, ⟨hsecondLow, hsecondHigh⟩, -⟩ := exists_admitted hread
    simp only [UInt8.reduceToNat] at hsecondLow hsecondHigh
    obtain ⟨c, hvalue⟩ := exists_char
      ((b.toNat - 0xC0) * 64 + (d.toNat - 0x80)) (by
        simp only [Nat.isValidChar]
        omega)
    exact ⟨c, [b, d], rest, .two hlow htwo ⟨hsecondLow, hsecondHigh⟩ hvalue, rfl⟩
  by_cases hthree : b.toNat < 0xF0
  · have hlow : 0xE0 ≤ b.toNat := by omega
    simp only [decodeFrom, lead_three hlow hthree] at hread
    obtain ⟨d, rest, rfl, hsecond, hnext⟩ := exists_admitted hread
    obtain ⟨e, rest, rfl, hthird, -⟩ := exists_admitted (hnext _ rfl)
    obtain ⟨hsecond, hshort, hsurrogate⟩ :=
      (narrowed_iff _ _ (by decide) (by decide) d).mp hsecond
    obtain ⟨c, hvalue⟩ := exists_char
      (((b.toNat - 0xE0) * 64 + (d.toNat - 0x80)) * 64 + (e.toNat - 0x80)) (by
        simp only [Nat.isValidChar, IsTail, UInt8.reduceToNat] at *
        omega)
    exact ⟨c, [b, d, e], rest,
      .three hlow hthree hsecond hthird hshort hsurrogate hvalue, rfl⟩
  · have hlow : 0xF0 ≤ b.toNat := by omega
    have hhigh : b.toNat ≤ 0xF4 := by omega
    simp only [decodeFrom, lead_four hlow hhigh] at hread
    obtain ⟨d, rest, rfl, hsecond, hnext⟩ := exists_admitted hread
    obtain ⟨e, rest, rfl, hthird, hnext⟩ := exists_admitted (hnext _ rfl)
    obtain ⟨f, rest, rfl, hfourth, -⟩ := exists_admitted (hnext _ rfl)
    obtain ⟨hsecond, hshort, hgreatest⟩ :=
      (narrowed_iff _ _ (by decide) (by decide) d).mp hsecond
    obtain ⟨c, hvalue⟩ := exists_char
      ((((b.toNat - 0xF0) * 64 + (d.toNat - 0x80)) * 64 + (e.toNat - 0x80)) * 64
        + (f.toNat - 0x80)) (by
        simp only [Nat.isValidChar, IsTail, UInt8.reduceToNat] at *
        omega)
    exact ⟨c, [b, d, e, f], rest,
      .four hlow hhigh hsecond hthird hfourth hshort hgreatest hvalue, rfl⟩

/-! ## Reading a text -/

@[simp] theorem encode_nil : encode [] = [] := rfl

@[simp] theorem encode_cons (c : Char) (text : List Char) :
    encode (c :: text) = String.utf8EncodeChar c ++ encode text := rfl

@[simp] theorem encode_append (first second : List Char) :
    encode (first ++ second) = encode first ++ encode second :=
  List.flatMap_append

theorem mem_of_mem_encode {text : List Char} {c : Char} {b : UInt8} (hascii : b.toNat < 0x80)
    (hvalue : b.toNat = c.toNat) (hmem : b ∈ encode text) : c ∈ text := by
  obtain ⟨d, hd, hbyte⟩ := List.mem_flatMap.mp hmem
  have heq : d = c := Char.toNat_inj.mp ((toNat_of_mem_encodeChar hascii hbyte).trans hvalue)
  exact heq ▸ hd

theorem decodeFrom_encode (index : Nat) (read text : List Char) (rest : Bytes) :
    decodeFrom index none read (encode text ++ rest) =
      decodeFrom (index + (encode text).length) none (text.reverse ++ read) rest := by
  induction text generalizing index read with
  | nil => rfl
  | cons c text ih =>
      rw [encode_cons, List.append_assoc, decodeFrom_sequence (sequence_encode c), ih]
      simp [Nat.add_assoc]

theorem decodeFrom_eq_ok_iff {index : Nat} {read text : List Char} {bytes : Bytes} :
    decodeFrom index none read bytes = .ok text ↔
      ∃ more, bytes = encode more ∧ text = read.reverse ++ more := by
  constructor
  · intro hread
    induction hlength : bytes.length using Nat.strongRecOn
      generalizing index read bytes with
    | ind length ih =>
        subst hlength
        cases bytes with
        | nil =>
            simp only [decodeFrom, Except.ok.injEq] at hread
            exact ⟨[], rfl, by simp [hread]⟩
        | cons b rest =>
            obtain ⟨c, bytes, tail, hsequence, heq⟩ := exists_sequence hread
            have hnonempty := String.utf8EncodeChar_ne_nil (c := c)
            rw [hsequence.encode] at hnonempty
            rw [heq, decodeFrom_sequence hsequence] at hread
            obtain ⟨more, rfl, rfl⟩ := ih tail.length (by
              rw [heq, List.length_append]
              have := List.length_pos_iff.mpr hnonempty
              omega) hread rfl
            refine ⟨c :: more, ?_, by simp⟩
            rw [heq, encode_cons, hsequence.encode]
  · rintro ⟨more, rfl, rfl⟩
    have hread := decodeFrom_encode index read more []
    rw [List.append_nil] at hread
    rw [hread]
    simp [decodeFrom]

/-- The strict reader accepts exactly the encodings. -/
theorem decode_eq_ok_iff {bytes : Bytes} {text : List Char} :
    decode bytes = .ok text ↔ bytes = encode text := by
  unfold decode
  rw [decodeFrom_eq_ok_iff]
  simp

theorem decode?_eq_some_iff {bytes : Bytes} {text : List Char} :
    decode? bytes = some text ↔ bytes = encode text := by
  rw [← decode_eq_ok_iff, decode?]
  cases decode bytes <;> simp [Except.toOption]

theorem decode_append_eq_ok_iff {first text : List Char} {bytes : Bytes} :
    decode (encode first ++ bytes) = .ok text ↔
      ∃ more, bytes = encode more ∧ text = first ++ more := by
  unfold decode
  rw [decodeFrom_encode, decodeFrom_eq_ok_iff]
  simp

@[simp] theorem decode_encode (text : List Char) : decode (encode text) = .ok text :=
  decode_eq_ok_iff.mpr rfl

@[simp] theorem decode?_encode (text : List Char) : decode? (encode text) = some text :=
  decode?_eq_some_iff.mpr rfl

end SegmentBench.Utf8
