import SegmentBench.Text.Extender
import SegmentBench.Text.Graphic
import SegmentBench.Text.Numeral

/-!
# Quoted text

A text between double quotes on one line.  A backslash introduces the short forms
`\0`, `\t`, `\n`, `\r`, `\"` and `\\`, and the code point in hexadecimal for every
other character that has no shape of its own; all else stands for itself.
-/

namespace SegmentBench

namespace Quoted

def codePoint (c : Char) : List Char :=
  ['\\', 'u', '{'] ++ Numeral.digits 16 c.toNat ++ ['}']

def character (c : Char) : List Char :=
  if c = '\x00' then ['\\', '0']
  else if c = '\t' then ['\\', 't']
  else if c = '\n' then ['\\', 'n']
  else if c = '\r' then ['\\', 'r']
  else if c = '"' then ['\\', '"']
  else if c = '\\' then ['\\', '\\']
  else if isExtender c || !isGraphic c then codePoint c
  else [c]

end Quoted

def quoted (text : List Char) : List Char :=
  '"' :: text.flatMap Quoted.character ++ ['"']

end SegmentBench
