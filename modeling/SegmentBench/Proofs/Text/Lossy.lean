import Mathlib.Algebra.Group.Nat.Defs
import SegmentBench.Proofs.Text.Utf8

/-!
# Lenient reading of UTF-8

The lenient reader shows each ASCII byte as its character, and every other piece of the
bytes, broken or not, as one character beyond ASCII.  So it hides no ASCII text that the
bytes hold, and brings in none that they do not hold.
-/

namespace SegmentBench.Utf8

/-! ## Bytes and what is shown of them -/

/-- ASCII bytes are shown one by one, any other piece as one other character. -/
inductive Shows : Bytes → List Char → Prop where
  | nil : Shows [] []
  | ascii {b : UInt8} {rest : Bytes} {text : List Char} (byte : b.toNat < 0x80)
      (later : Shows rest text) : Shows (b :: rest) (Char.ofNat b.toNat :: text)
  | other {piece rest : Bytes} {c : Char} {text : List Char} (nonempty : piece ≠ [])
      (bytes : ∀ b ∈ piece, 0x80 ≤ b.toNat) (shown : 0x80 ≤ c.toNat)
      (later : Shows rest text) : Shows (piece ++ rest) (c :: text)

namespace Pending

/-- The least value of a character that goes on from here, and the first one too great. -/
def least (state : Pending) : Nat :=
  (state.value * 64 + (state.low.toNat - 0x80)) * 64 ^ state.missing

def limit (state : Pending) : Nat :=
  (state.value * 64 + (state.high.toNat - 0x80) + 1) * 64 ^ state.missing

/-- Inside a character: no byte of it is ASCII, and every value that it can come to is that
of a character beyond ASCII. -/
structure Sound (state : Pending) : Prop where
  nonempty : state.seen ≠ []
  seen : ∀ b ∈ state.seen, 0x80 ≤ b.toNat
  low : 0x80 ≤ state.low.toNat
  least : 0x80 ≤ state.least
  surrogates : state.limit ≤ 0xD800 ∨ 0xE000 ≤ state.least
  limit : state.limit ≤ 0x110000

theorem Sound.value_of_admits {state : Pending} (hsound : state.Sound) {b : UInt8}
    (hadmits : state.admits b = true) :
    0x80 ≤ b.toNat ∧
      state.least ≤ (state.value * 64 + (b.toNat - 0x80)) * 64 ^ state.missing ∧
      (state.value * 64 + (b.toNat - 0x80) + 1) * 64 ^ state.missing ≤ state.limit := by
  obtain ⟨hlow, hhigh⟩ := (admits_iff state b).mp hadmits
  have := hsound.low
  exact ⟨by omega, Nat.mul_le_mul_right _ (by omega), Nat.mul_le_mul_right _ (by omega)⟩

end Pending

inductive Follows (seen : Bytes) (b : UInt8) : Lead → Prop where
  | character {c : Char} (bytes : ∀ a ∈ b :: seen, 0x80 ≤ a.toNat) (value : 0x80 ≤ c.toNat) :
      Follows seen b (.character c)
  | pending {next : Pending} (sound : next.Sound) (more : next.seen = b :: seen) :
      Follows seen b (.pending next)

theorem Pending.Sound.push {state : Pending} (hsound : state.Sound) {b : UInt8}
    (hadmits : state.admits b = true) : Follows state.seen b (state.push b) := by
  -- each byte narrows the values that are left, so the bounds stay good
  obtain ⟨hb, hleast, hlimit⟩ := hsound.value_of_admits hadmits
  have hbytes : ∀ a ∈ b :: state.seen, 0x80 ≤ a.toNat :=
    List.forall_mem_cons.mpr ⟨hb, hsound.seen⟩
  have := hsound.least
  have := hsound.surrogates
  have := hsound.limit
  unfold Pending.push
  cases hmissing : state.missing with
  | zero =>
      simp only [hmissing, Nat.pow_zero, Nat.mul_one] at hleast hlimit
      obtain ⟨c, hc⟩ := exists_char (state.value * 64 + (b.toNat - 0x80)) (by
        simp only [Nat.isValidChar]
        omega)
      simp only [ofNat_eq_of_toNat hc]
      exact .character hbytes (by omega)
  | succ missing =>
      rw [hmissing, Nat.pow_succ, Nat.mul_comm (64 ^ missing), ← Nat.mul_assoc] at hleast hlimit
      let next : Pending :=
        ⟨state.value * 64 + (b.toNat - 0x80), b :: state.seen, missing, 0x80, 0xBF⟩
      have hnextLeast : state.least ≤ next.least := by
        simpa [next, Pending.least] using hleast
      have hnextLimit : next.limit ≤ state.limit := by
        simpa [next, Pending.limit, Nat.add_mul, Nat.add_assoc] using hlimit
      have hnext : next.Sound :=
        ⟨List.cons_ne_nil _ _, hbytes, by simp [next], Nat.le_trans hsound.least hnextLeast,
          hsound.surrogates.imp (Nat.le_trans hnextLimit) (Nat.le_trans · hnextLeast),
          Nat.le_trans hnextLimit hsound.limit⟩
      exact .pending hnext rfl

theorem follows_lead (b : UInt8) :
    lead b = .character (Char.ofNat b.toNat) ∧ b.toNat < 0x80 ∨
      lead b = .invalid ∧ 0x80 ≤ b.toNat ∨
      ∃ state, lead b = .pending state ∧ state.Sound ∧ state.seen = [b] := by
  by_cases hone : b.toNat < 0x80
  · exact .inl ⟨lead_one hone, hone⟩
  have hb : 0x80 ≤ b.toNat := Nat.not_lt.mp hone
  by_cases hinvalid : b.toNat < 0xC2 ∨ 0xF4 < b.toNat
  · exact .inr (.inl ⟨lead_invalid hb hinvalid, hb⟩)
  have hseen : ∀ a ∈ [b], 0x80 ≤ a.toNat := by simpa using hb
  refine .inr (.inr ?_)
  by_cases htwo : b.toNat < 0xE0
  · refine ⟨_, lead_two (by omega) htwo, ⟨List.cons_ne_nil _ _, hseen, ?_, ?_, ?_, ?_⟩, rfl⟩
    all_goals simp [Pending.least, Pending.limit]
    all_goals omega
  by_cases hthree : b.toNat < 0xF0
  · refine ⟨_, lead_three (by omega) hthree, ⟨List.cons_ne_nil _ _, hseen, ?_, ?_, ?_, ?_⟩, rfl⟩
    all_goals simp only [Pending.least, Pending.limit]
    all_goals split <;> simp <;> omega
  · refine ⟨_, lead_four (by omega) (by omega),
      ⟨List.cons_ne_nil _ _, hseen, ?_, ?_, .inr ?_, ?_⟩, rfl⟩
    all_goals simp only [Pending.least, Pending.limit]
    all_goals split <;> simp <;> omega

/-! ## The whole text -/

theorem begin_read (b : UInt8) (read : List Piece) :
    begin b read = ((begin b []).1, (begin b []).2 ++ read) := by
  unfold begin
  cases lead b <;> rfl

theorem piecesFrom_read (state : Option Pending) (read : List Piece) (bytes : Bytes) :
    piecesFrom state read bytes = read.reverse ++ piecesFrom state [] bytes := by
  induction bytes generalizing state read with
  | nil => cases state <;> simp [piecesFrom]
  | cons b rest ih =>
      have hbegin (read : List Piece) :
          piecesFrom (begin b read).1 (begin b read).2 rest =
            read.reverse ++ piecesFrom (begin b []).1 (begin b []).2 rest := by
        rw [begin_read, ih _ ((begin b []).2 ++ read), ih _ (begin b []).2]
        simp
      cases state with
      | none => exact hbegin read
      | some pending =>
          simp only [piecesFrom]
          split
          · cases pending.push b with
            | character c =>
                simp only
                rw [ih, ih none [.character c]]
                simp
            | pending more => exact ih (some more) read
            | invalid =>
                simp only
                rw [ih, ih none [pending.broken]]
                simp
          · rw [hbegin, hbegin [pending.broken]]
            simp

theorem piecesFrom_restart {state : Pending} {b : UInt8} (hout : ¬state.admits b)
    (rest : Bytes) :
    piecesFrom (some state) [] (b :: rest) =
      state.broken :: piecesFrom none [] (b :: rest) := by
  have hread := piecesFrom_read none [state.broken] (b :: rest)
  simpa [piecesFrom, hout] using hread

def held : Option Pending → Bytes
  | none => []
  | some state => state.seen.reverse

theorem Shows.broken {state : Pending} (hsound : state.Sound) {rest : Bytes}
    {text : List Char} (hlater : Shows rest text) :
    Shows (held (some state) ++ rest) (state.broken.shown :: text) :=
  .other (by simpa [held] using hsound.nonempty) (by simpa [held] using hsound.seen)
    (show 0x80 ≤ replacement.toNat by decide) hlater

theorem shows_piecesFrom {state : Option Pending} (hsound : ∀ held ∈ state, held.Sound)
    (bytes : Bytes) :
    Shows (held state ++ bytes) ((piecesFrom state [] bytes).map Piece.shown) := by
  induction bytes generalizing state with
  | nil =>
      cases state with
      | none => exact .nil
      | some state => exact .broken (hsound state rfl) .nil
  | cons b rest ih =>
      have hfresh : Shows rest ((piecesFrom none [] rest).map Piece.shown) :=
        @ih none (by simp)
      have hgoing {next : Pending} (hnext : next.Sound) :
          Shows (next.seen.reverse ++ rest)
            ((piecesFrom (some next) [] rest).map Piece.shown) :=
        @ih (some next) (by simpa using hnext)
      -- what a byte shows between two characters it also shows where a character breaks off
      have hidle : Shows (b :: rest) ((piecesFrom none [] (b :: rest)).map Piece.shown) := by
        simp only [piecesFrom, begin]
        obtain ⟨hlead, hb⟩ | ⟨hlead, hb⟩ | ⟨next, hlead, hnext, hseen⟩ := follows_lead b
        · simp only [hlead]
          rw [piecesFrom_read]
          exact .ascii hb hfresh
        · simp only [hlead]
          rw [piecesFrom_read]
          exact .other (List.cons_ne_nil b []) (by simpa using hb)
            (show 0x80 ≤ replacement.toNat by decide) hfresh
        · simp only [hlead]
          simpa [hseen] using hgoing hnext
      cases state with
      | none => exact hidle
      | some state =>
          have hstate := hsound state rfl
          by_cases hadmits : state.admits b
          · have hfollows := hstate.push hadmits
            have hbytes : held (some state) ++ b :: rest = (b :: state.seen).reverse ++ rest := by
              simp [held]
            rw [hbytes]
            simp only [piecesFrom, hadmits, if_true]
            cases hpush : state.push b with
            | character c =>
                rw [hpush] at hfollows
                cases hfollows with
                | character hpiece hvalue =>
                    simp only
                    rw [piecesFrom_read]
                    exact .other (by simp) (fun a ha => hpiece a (List.mem_reverse.mp ha)) hvalue
                      hfresh
            | pending next =>
                rw [hpush] at hfollows
                cases hfollows with
                | pending hnext hmore => simpa only [hmore] using hgoing hnext
            | invalid =>
                rw [hpush] at hfollows
                cases hfollows
          · rw [piecesFrom_restart hadmits]
            exact .broken hstate hidle

theorem shows_decodeLossy (bytes : Bytes) : Shows bytes (decodeLossy bytes) :=
  @shows_piecesFrom none (by simp) bytes

/-! ## ASCII text in it -/

def IsAscii (word : Bytes) : Prop := ∀ b ∈ word, b.toNat < 0x80

instance (word : Bytes) : Decidable (IsAscii word) :=
  show Decidable (∀ b ∈ word, b.toNat < 0x80) from List.decidableBAll _ word

def asciiText (word : Bytes) : List Char := word.map fun b => Char.ofNat b.toNat

theorem toNat_ofNat_ascii {b : UInt8} (hascii : b.toNat < 0x80) :
    (Char.ofNat b.toNat).toNat = b.toNat := by
  obtain ⟨c, hc⟩ := exists_char b.toNat (.inl (by omega))
  rw [ofNat_eq_of_toNat hc, hc]

theorem ofNat_ascii_inj {a b : UInt8} (ha : a.toNat < 0x80) (hb : b.toNat < 0x80) :
    Char.ofNat a.toNat = Char.ofNat b.toNat ↔ a = b := by
  refine ⟨fun heq => ?_, fun heq => by rw [heq]⟩
  rw [← UInt8.toNat_inj, ← toNat_ofNat_ascii ha, heq, toNat_ofNat_ascii hb]

namespace Shows

variable {bytes word : Bytes} {text : List Char}

theorem prefix_iff (hshows : Shows bytes text) (hascii : IsAscii word) :
    asciiText word <+: text ↔ word <+: bytes := by
  induction hshows generalizing word with
  | nil => simp [asciiText]
  | @ascii b rest text hb _ ih =>
      cases word with
      | nil => simp [asciiText]
      | cons a word =>
          obtain ⟨ha, hword⟩ := List.forall_mem_cons.mp hascii
          rw [List.cons_prefix_cons, ← ih hword, ← ofNat_ascii_inj ha hb]
          exact List.cons_prefix_cons
  | @other piece rest c text hpiece hbytes hc _ _ =>
      cases word with
      | nil => simp [asciiText]
      | cons a word =>
          have ha := (List.forall_mem_cons.mp hascii).1
          obtain ⟨b, piece, rfl⟩ := List.exists_cons_of_ne_nil hpiece
          have hb := (List.forall_mem_cons.mp hbytes).1
          refine iff_of_false ?_ ?_
          · intro hbegins
            have heq : Char.ofNat a.toNat = c := (List.cons_prefix_cons.mp hbegins).1
            rw [← heq, toNat_ofNat_ascii ha] at hc
            omega
          · intro hbegins
            have heq := (List.cons_prefix_cons.mp hbegins).1
            rw [heq] at ha
            omega

end Shows

/-- ASCII text neither starts nor ends inside a piece beyond ASCII. -/
theorem infix_append_iff {piece word : Bytes} (hpiece : ∀ b ∈ piece, 0x80 ≤ b.toNat)
    (hascii : IsAscii word) (hword : word ≠ []) (rest : Bytes) :
    word <:+: piece ++ rest ↔ word <:+: rest := by
  induction piece with
  | nil => rfl
  | cons b piece ih =>
      obtain ⟨hb, hpiece⟩ := List.forall_mem_cons.mp hpiece
      obtain ⟨a, word, rfl⟩ := List.exists_cons_of_ne_nil hword
      have ha := (List.forall_mem_cons.mp hascii).1
      rw [List.cons_append, List.infix_cons_iff, ih hpiece, or_iff_right]
      intro hbegins
      have heq := (List.cons_prefix_cons.mp hbegins).1
      rw [heq] at ha
      omega

theorem Shows.infix_iff {bytes word : Bytes} {text : List Char} (hshows : Shows bytes text)
    (hascii : IsAscii word) (hword : word ≠ []) :
    asciiText word <:+: text ↔ word <:+: bytes := by
  induction hshows with
  | nil => simp [asciiText]
  | ascii hb hlater ih =>
      rw [List.infix_cons_iff, List.infix_cons_iff, ih, (Shows.ascii hb hlater).prefix_iff hascii]
  | other hpiece hbytes hc hlater ih =>
      have hbegins := (Shows.other hpiece hbytes hc hlater).prefix_iff hascii
      rw [List.infix_cons_iff, hbegins, ih, infix_append_iff hbytes hascii hword]
      -- a word cannot stand in front, where the piece is
      refine or_iff_right_of_imp fun hfront => ?_
      exact (infix_append_iff hbytes hascii hword _).mp hfront.isInfix

theorem infix_decodeLossy_iff (bytes : Bytes) {word : Bytes} (hascii : IsAscii word)
    (hword : word ≠ []) : asciiText word <:+: decodeLossy bytes ↔ word <:+: bytes :=
  (shows_decodeLossy bytes).infix_iff hascii hword

/-! ## Single ASCII bytes -/

theorem Shows.count_eq {bytes : Bytes} {text : List Char} (hshows : Shows bytes text) {a : UInt8}
    (ha : a.toNat < 0x80) : text.count (Char.ofNat a.toNat) = bytes.count a := by
  induction hshows with
  | nil => rfl
  | ascii hb _ ih => simp [List.count_cons, ih, ofNat_ascii_inj hb ha]
  | @other piece rest c text _ hbytes hc _ ih =>
      have hpiece : a ∉ piece := fun hmem => by
        have := hbytes a hmem
        omega
      have hcharacter : c ≠ Char.ofNat a.toNat := by
        rintro rfl
        rw [toNat_ofNat_ascii ha] at hc
        omega
      rw [List.count_cons_of_ne hcharacter, List.count_append,
        List.count_eq_zero_of_not_mem hpiece, Nat.zero_add, ih]

/-- Each ASCII byte is shown as often as it stands in the bytes. -/
theorem count_decodeLossy (bytes : Bytes) {a : UInt8} (ha : a.toNat < 0x80) :
    (decodeLossy bytes).count (Char.ofNat a.toNat) = bytes.count a :=
  (shows_decodeLossy bytes).count_eq ha

/-! ## Bytes that are a text -/

theorem shown_piecesFrom {index : Nat} {state : Option Pending} {read text : List Char}
    {shown : List Piece} {bytes : Bytes} (hshown : shown.map Piece.shown = read)
    (hread : decodeFrom index state read bytes = .ok text) :
    (piecesFrom state shown bytes).map Piece.shown = text := by
  induction bytes generalizing index state read shown with
  | nil =>
      cases state with
      | none =>
          cases hread
          rw [piecesFrom, List.map_reverse, hshown]
      | some pending => cases hread
  | cons b rest ih =>
      have hcharacter (c : Char) : (Piece.character c :: shown).map Piece.shown = c :: read :=
        congrArg (List.cons c) hshown
      cases state with
      | none =>
          simp only [decodeFrom] at hread
          simp only [piecesFrom, begin]
          cases hlead : lead b with
          | character c =>
              rw [hlead] at hread
              exact ih (hcharacter c) hread
          | pending next =>
              rw [hlead] at hread
              exact ih hshown hread
          | invalid =>
              rw [hlead] at hread
              cases hread
      | some pending =>
          simp only [decodeFrom] at hread
          split at hread
          · rename_i hadmits
            simp only [piecesFrom, hadmits, if_true]
            cases hpush : pending.push b with
            | character c =>
                rw [hpush] at hread
                exact ih (hcharacter c) hread
            | pending next =>
                rw [hpush] at hread
                exact ih hshown hread
            | invalid =>
                rw [hpush] at hread
                cases hread
          · cases hread

@[simp] theorem decodeLossy_encode (text : List Char) : decodeLossy (encode text) = text :=
  shown_piecesFrom (List.map_nil) (decode_encode text)

end SegmentBench.Utf8
