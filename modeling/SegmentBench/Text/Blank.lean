/-!
# Blank characters and words

The characters with the Unicode property White_Space, and the words of a text:
its longest runs without one.  The first line of a text ends with a newline, or a
carriage return and a newline.
-/

namespace SegmentBench

def isBlank (c : Char) : Bool :=
  let code := c.toNat
  (9 ≤ code && code ≤ 13) || code == 0x20 || code == 0x85 || code == 0xA0
    || code == 0x1680 || (0x2000 ≤ code && code ≤ 0x200A) || code == 0x2028
    || code == 0x2029 || code == 0x202F || code == 0x205F || code == 0x3000

/-- `word` holds the characters of the unfinished word, last first, and `done` the
finished words, last first. -/
def wordsFrom (word : List Char) (done : List (List Char)) : List Char → List (List Char)
  | [] => (if word.isEmpty then done else word.reverse :: done).reverse
  | c :: rest =>
      if isBlank c then
        wordsFrom [] (if word.isEmpty then done else word.reverse :: done) rest
      else wordsFrom (c :: word) done rest

def words (text : List Char) : List (List Char) := wordsFrom [] [] text

namespace Blank

def withoutReturn (line : List Char) : List Char :=
  if line.getLast? = some '\r' then line.dropLast else line

def firstLine (text : List Char) : List Char :=
  let line := text.takeWhile (· ≠ '\n')
  if line.length < text.length then withoutReturn line else line

end Blank

end SegmentBench
