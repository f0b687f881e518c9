import SegmentBench.Text.Numeral

/-!
# Timestamps

Points in time as seconds from the start of 1970 in universal time, their date in
the Gregorian calendar, and their text by RFC 3339.  The calendar repeats after
400 years; its years are counted from March here, so that the leap day is the last
of a year.  A second with more than its nanoseconds is a leap second.
-/

namespace SegmentBench

structure Timestamp where
  seconds : Int
  nanoseconds : Nat
  deriving DecidableEq, Repr

structure Date where
  year : Int
  month : Nat
  day : Nat
  deriving DecidableEq, Repr

namespace Date

def cycle : Nat := 146097

/-- Days from the first of March of the year 0 to the start of 1970. -/
def offset : Int := 719468

def yearOfCycle (day : Nat) : Nat :=
  (day - day / 1460 + day / 36524 - day / 146096) / 365

/-- The months from March repeat lengths of 31, 30, 31, 30 and 31 days. -/
def ofDays (days : Int) : Date :=
  let shifted := days + offset
  let day := (shifted % cycle).toNat
  let year := yearOfCycle day
  let dayOfYear := day - (365 * year + year / 4 - year / 100)
  let monthFromMarch := (5 * dayOfYear + 2) / 153
  let month := if monthFromMarch < 10 then monthFromMarch + 3 else monthFromMarch - 9
  ⟨shifted / cycle * 400 + year + (if month ≤ 2 then 1 else 0), month,
    dayOfYear - (153 * monthFromMarch + 2) / 5 + 1⟩

def yearText (year : Int) : List Char :=
  if 0 ≤ year ∧ year ≤ 9999 then Numeral.padded 4 year.toNat
  else (if year < 0 then '-' else '+') :: Numeral.padded 4 year.natAbs

def text (date : Date) : List Char :=
  yearText date.year ++ '-' :: Numeral.padded 2 date.month
    ++ '-' :: Numeral.padded 2 date.day

end Date

namespace Timestamp

def perSecond : Nat := 1000000000

def fraction (nanoseconds : Nat) : List Char :=
  if nanoseconds = 0 then []
  else if nanoseconds % 1000000 = 0 then '.' :: Numeral.padded 3 (nanoseconds / 1000000)
  else if nanoseconds % 1000 = 0 then '.' :: Numeral.padded 6 (nanoseconds / 1000)
  else '.' :: Numeral.padded 9 nanoseconds

def text (time : Timestamp) : String :=
  let second := (time.seconds % 86400).toNat
  let leap := time.nanoseconds / perSecond
  String.ofList <|
    (Date.ofDays (time.seconds / 86400)).text ++ 'T' :: Numeral.padded 2 (second / 3600)
      ++ ':' :: Numeral.padded 2 (second / 60 % 60)
      ++ ':' :: Numeral.padded 2 (second % 60 + leap)
      ++ fraction (time.nanoseconds % perSecond) ++ ['Z']

end Timestamp

end SegmentBench
