/-!
# Numerals

Positional numerals in a base, most significant digit first, and the reader of
decimal words with the causes for which it refuses one.  A word is examined from
the left, so of a bad digit and an overflow the leftmost decides.
-/

namespace SegmentBench.Numeral

/-! ## Writing -/

def digit (value : Nat) : Char :=
  if value < 10 then Char.ofNat (48 + value) else Char.ofNat (87 + value)

def digits (base value : Nat) : List Char :=
  if base < 2 ∨ value < base then [digit value]
  else digits base (value / base) ++ [digit (value % base)]
termination_by value
decreasing_by exact Nat.div_lt_self (by omega) (by omega)

def padded (width value : Nat) : List Char :=
  let written := digits 10 value
  List.replicate (width - written.length) '0' ++ written

def natural (value : Nat) : String := String.ofList (digits 10 value)

def integer : Int → String
  | .ofNat value => natural value
  | .negSucc value => "-" ++ natural (value + 1)

/-! ## Reading -/

def digit? (base : Nat) (c : Char) : Option Nat :=
  let value :=
    if '0' ≤ c ∧ c ≤ '9' then some (c.toNat - 48)
    else if 'a' ≤ c ∧ c ≤ 'z' then some (c.toNat - 87)
    else if 'A' ≤ c ∧ c ≤ 'Z' then some (c.toNat - 55)
    else none
  value.filter (· < base)

def isDigit (base : Nat) (c : Char) : Bool := (digit? base c).isSome

def isDecimal : Char → Bool := isDigit 10

/-- The value of a list of digits that follow a part worth `value`. -/
def append (base value : Nat) (text : List Char) : Nat :=
  text.foldl (fun total c => total * base + (digit? base c).getD 0) value

inductive Fault where
  | empty
  | invalidDigit
  | tooLarge
  | tooSmall
  deriving DecidableEq, Repr

def Fault.message : Fault → String
  | .empty => "cannot parse integer from empty string"
  | .invalidDigit => "invalid digit found in string"
  | .tooLarge => "number too large to fit in target type"
  | .tooSmall => "number too small to fit in target type"

/-- Reads decimal digits after a part worth `value`; a value above `limit` is the
fault `beyond`. -/
def magnitude (limit : Nat) (beyond : Fault) (value : Nat) : List Char → Except Fault Nat
  | [] => .ok value
  | c :: rest =>
      match digit? 10 c with
      | none => .error .invalidDigit
      | some d =>
          if limit < value * 10 + d then .error beyond
          else magnitude limit beyond (value * 10 + d) rest

def greatestInt32 : Nat := 2147483647

def readInt32 : List Char → Except Fault Int32
  | [] => .error .empty
  | '+' :: [] | '-' :: [] => .error .invalidDigit
  | '-' :: rest =>
      (magnitude (greatestInt32 + 1) .tooSmall 0 rest).map fun value => Int32.ofInt (-value)
  | '+' :: rest => (magnitude greatestInt32 .tooLarge 0 rest).map Int32.ofNat
  | text => (magnitude greatestInt32 .tooLarge 0 text).map Int32.ofNat

def greatestUInt64 : Nat := 18446744073709551615

def readUInt64 : List Char → Except Fault UInt64
  | [] => .error .empty
  | '+' :: [] => .error .invalidDigit
  | '+' :: rest => (magnitude greatestUInt64 .tooLarge 0 rest).map UInt64.ofNat
  | text => (magnitude greatestUInt64 .tooLarge 0 text).map UInt64.ofNat

end SegmentBench.Numeral
