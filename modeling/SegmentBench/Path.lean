import SegmentBench.Text.Quoted
import SegmentBench.Text.Utf8

/-!
# Paths

A path is any string of bytes.  It is shown with U+FFFD for each piece that is not
UTF-8, and quoted with the bytes of such a piece in hexadecimal.
-/

namespace SegmentBench

structure Path where
  bytes : Bytes
  deriving DecidableEq, Repr

namespace Path

def ofString (text : String) : Path := ⟨Utf8.encode text.toList⟩

def shown (path : Path) : List Char := Utf8.decodeLossy path.bytes

def display (path : Path) : String := String.ofList path.shown

def hexByte (b : UInt8) : List Char :=
  ['\\', 'x', (Numeral.digit (b.toNat / 16)).toUpper, (Numeral.digit (b.toNat % 16)).toUpper]

def quotedPiece : Utf8.Piece → List Char
  | .character c => Quoted.character c
  | .broken bytes => bytes.flatMap hexByte

def quoted (path : Path) : String :=
  String.ofList ('"' :: (Utf8.pieces path.bytes).flatMap quotedPiece ++ ['"'])

end Path

end SegmentBench
