/-
  Calendar dates

  A day is a number of days from the first of January 1970 on, and a date is its
  place in the Gregorian calendar, which is continued without a break before its
  introduction. Years are counted from March here, so that a leap day is the last
  day of its year; a cycle of 400 such years has 146097 days.
-/

namespace Instrumentation.Time

/-- A date. The year before year 1 is year 0. -/
structure Date where
  year : Int
  month : Nat
  day : Nat
  deriving DecidableEq, Repr

/-- The days from the first of March of year 0 to the first of January 1970. -/
def daysBeforeEpoch : Int := 719468

/-- The year of a day of a cycle and the day of that year, both counted from 0.
Every hundred years but the last of a cycle lacks a leap day, and so does every
four years but the last of a hundred. -/
def yearOfCycle (day : Nat) : Nat × Nat :=
  let century := min (day / 36524) 3
  let inCentury := day - century * 36524
  let inFourYears := inCentury % 1461
  let year := min (inFourYears / 365) 3
  (100 * century + 4 * (inCentury / 1461) + year, inFourYears - year * 365)

/-- The month of a day of a year from March on, counted from 0, and the day of that
month. Five months from March on have 153 days, and so have the next five. -/
def monthOfYear (day : Nat) : Nat × Nat :=
  let month := (5 * day + 2) / 153
  (month, day - (153 * month + 2) / 5 + 1)

def Date.ofDay (day : Int) : Date :=
  let fromMarch := day + daysBeforeEpoch
  let (year, dayOfYear) := yearOfCycle (fromMarch % 146097).toNat
  let (month, dayOfMonth) := monthOfYear dayOfYear
  let year := (fromMarch / 146097) * 400 + year
  if month < 10 then ⟨year, month + 3, dayOfMonth⟩ else ⟨year + 1, month - 9, dayOfMonth⟩

end Instrumentation.Time
