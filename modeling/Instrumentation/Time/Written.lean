import Instrumentation.Time.Calendar
import Instrumentation.Time.Clock
/-
  Written timestamps

  A timestamp is written in universal time as a date, the letter T, the time of
  day with as many places after the point as it needs of 0, 3, 6 and 9, and the
  offset zero. Years from 0 to 9999 have four digits; any other has its sign and at
  least four digits. Only years from -262143 to 262142 can be written.
-/

namespace Instrumentation.Time

/-- The decimal digits of a number, with zeros in front up to a width. -/
def padded (width n : Nat) : List Char := (Nat.toDigits 10 n).leftpad width '0'

def writtenYear (year : Int) : List Char :=
  if 0 ≤ year ∧ year ≤ 9999 then padded 4 year.toNat
  else (if year < 0 then '-' else '+') :: padded 4 year.natAbs

def writtenFraction (nanos : Nat) : List Char :=
  if nanos = 0 then []
  else if nanos % 1000000 = 0 then '.' :: padded 3 (nanos / 1000000)
  else if nanos % 1000 = 0 then '.' :: padded 6 (nanos / 1000)
  else '.' :: padded 9 nanos

def Date.written (date : Date) : List Char :=
  writtenYear date.year ++ '-' :: padded 2 date.month ++ '-' :: padded 2 date.day

/-- The written form of a second of a day. -/
def writtenTimeOfDay (second : Nat) : List Char :=
  padded 2 (second / 3600) ++ ':' :: padded 2 (second / 60 % 60) ++
    ':' :: padded 2 (second % 60)

/-- The years whose timestamps can be written. -/
def Date.isWritable (date : Date) : Bool :=
  -262143 ≤ date.year && date.year ≤ 262142

namespace Timestamp

def date (timestamp : Timestamp) : Date := .ofDay (timestamp.seconds / 86400)

def written (timestamp : Timestamp) : List Char :=
  timestamp.date.written ++ 'T' :: writtenTimeOfDay (timestamp.seconds % 86400).toNat ++
    writtenFraction timestamp.nanos ++ ['+', '0', '0', ':', '0', '0']

/-- The written form of a timestamp whose year can be written. -/
def text? (timestamp : Timestamp) : Option String :=
  if timestamp.date.isWritable then some (String.ofList timestamp.written) else none

end Timestamp

end Instrumentation.Time
