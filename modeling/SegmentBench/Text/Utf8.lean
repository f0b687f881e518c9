import SegmentBench.Text.Numeral

/-!
# UTF-8

A byte machine over lists: it is idle between characters, or pending inside one
with the range that the next byte must fall into.  The strict reader reports the
first place where a byte does not continue a character, and how many bytes of the
character were already well formed; the lenient reader cuts the text into
characters and such broken pieces, and goes on behind each.
-/

namespace SegmentBench

abbrev Bytes := List UInt8

namespace Utf8

/-! ## The byte machine -/

/-- `value` collects the bits seen, `seen` holds the bytes seen, last first, and
`missing` is the number of bytes to come after the next one, which lies between
`low` and `high`. -/
structure Pending where
  value : Nat
  seen : Bytes
  missing : Nat
  low : UInt8
  high : UInt8
  deriving DecidableEq, Repr

inductive Lead where
  | character (c : Char)
  | pending (state : Pending)
  | invalid
  deriving DecidableEq, Repr

def lead (b : UInt8) : Lead :=
  let bits := b.toNat
  if bits < 0x80 then .character (Char.ofNat bits)
  else if bits < 0xC2 then .invalid
  else if bits < 0xE0 then .pending ⟨bits - 0xC0, [b], 0, 0x80, 0xBF⟩
  else if bits = 0xE0 then .pending ⟨bits - 0xE0, [b], 1, 0xA0, 0xBF⟩
  else if bits = 0xED then .pending ⟨bits - 0xE0, [b], 1, 0x80, 0x9F⟩
  else if bits < 0xF0 then .pending ⟨bits - 0xE0, [b], 1, 0x80, 0xBF⟩
  else if bits = 0xF0 then .pending ⟨bits - 0xF0, [b], 2, 0x90, 0xBF⟩
  else if bits < 0xF4 then .pending ⟨bits - 0xF0, [b], 2, 0x80, 0xBF⟩
  else if bits = 0xF4 then .pending ⟨bits - 0xF0, [b], 2, 0x80, 0x8F⟩
  else .invalid

def Pending.admits (state : Pending) (b : UInt8) : Bool :=
  state.low ≤ b && b ≤ state.high

def Pending.push (state : Pending) (b : UInt8) : Lead :=
  let value := state.value * 64 + (b.toNat - 0x80)
  match state.missing with
  | 0 => .character (Char.ofNat value)
  | missing + 1 => .pending ⟨value, b :: state.seen, missing, 0x80, 0xBF⟩

/-! ## Strict reading -/

/-- Where the text breaks, and the length of the broken piece; no length when the
text ends inside a character. -/
structure Fault where
  start : Nat
  length : Option Nat
  deriving DecidableEq, Repr

def Fault.message (fault : Fault) : String :=
  match fault.length with
  | some length =>
      "invalid utf-8 sequence of " ++ Numeral.natural length ++ " bytes from index "
        ++ Numeral.natural fault.start
  | none => "incomplete utf-8 byte sequence from index " ++ Numeral.natural fault.start

def Pending.fault (state : Pending) (index : Nat) : Fault :=
  ⟨index - state.seen.length, some state.seen.length⟩

/-- Reads on at byte `index`, inside the character `state` if there is one; `read`
holds the characters so far, last first. -/
def decodeFrom (index : Nat) (state : Option Pending) (read : List Char) :
    Bytes → Except Fault (List Char)
  | [] =>
      match state with
      | none => .ok read.reverse
      | some pending => .error ⟨index - pending.seen.length, none⟩
  | b :: rest =>
      match state with
      | none =>
          match lead b with
          | .character c => decodeFrom (index + 1) none (c :: read) rest
          | .pending next => decodeFrom (index + 1) (some next) read rest
          | .invalid => .error ⟨index, some 1⟩
      | some pending =>
          if pending.admits b then
            match pending.push b with
            | .character c => decodeFrom (index + 1) none (c :: read) rest
            | .pending next => decodeFrom (index + 1) (some next) read rest
            | .invalid => .error (pending.fault index)
          else .error (pending.fault index)

def decode (bytes : Bytes) : Except Fault (List Char) := decodeFrom 0 none [] bytes

def decode? (bytes : Bytes) : Option (List Char) := (decode bytes).toOption

/-! ## Lenient reading -/

inductive Piece where
  | character (c : Char)
  | broken (bytes : Bytes)
  deriving DecidableEq, Repr

def Pending.broken (state : Pending) : Piece := .broken state.seen.reverse

def begin (b : UInt8) (read : List Piece) : Option Pending × List Piece :=
  match lead b with
  | .character c => (none, .character c :: read)
  | .pending next => (some next, read)
  | .invalid => (none, .broken [b] :: read)

def piecesFrom (state : Option Pending) (read : List Piece) : Bytes → List Piece
  | [] =>
      match state with
      | none => read.reverse
      | some pending => (pending.broken :: read).reverse
  | b :: rest =>
      match state with
      | none =>
          let next := begin b read
          piecesFrom next.1 next.2 rest
      | some pending =>
          if pending.admits b then
            match pending.push b with
            | .character c => piecesFrom none (.character c :: read) rest
            | .pending more => piecesFrom (some more) read rest
            | .invalid => piecesFrom none (pending.broken :: read) rest
          else
            let next := begin b (pending.broken :: read)
            piecesFrom next.1 next.2 rest

def pieces (bytes : Bytes) : List Piece := piecesFrom none [] bytes

def replacement : Char := Char.ofNat 0xFFFD

def Piece.shown : Piece → Char
  | .character c => c
  | .broken _ => replacement

def decodeLossy (bytes : Bytes) : List Char := (pieces bytes).map Piece.shown

/-! ## Writing -/

def encode (text : List Char) : Bytes := text.flatMap String.utf8EncodeChar

end Utf8

end SegmentBench
