import Mathlib.Algebra.Order.Ring.Int
import Instrumentation.Time.Written
/-
  Dates and the rule of leap years

  Dates are found by arithmetic on cycles of 400 years that begin in March. Here they
  are counted the plain way: a year has 365 days, or 366 if it is divisible by 4 and
  not by 100 or else by 400, and a month has the days it has.

  What is proved:
    1. `daysBeforeYear_succ` — the closed form for the days before a year grows by the
       length of each year, so it is what the rule of leap years says.
    2. `date_ofDay` — the date of a day is a date of that calendar, before and after
       year 0, and counting its days gives the day back.
    3. `isWritable_iff` — the timestamps that can be written are those from the first
       second of year -262143 to the last one of year 262142.
-/

namespace Instrumentation.Time

def isLeap (year : Int) : Bool :=
  year % 4 = 0 ∧ (year % 100 ≠ 0 ∨ year % 400 = 0)

def yearLength (year : Int) : Nat := if isLeap year then 366 else 365

/-- The days of a month. There are twelve of them, and any other number has no days. -/
def monthLength (year : Int) : Nat → Nat
  | 1 | 3 | 5 | 7 | 8 | 10 | 12 => 31
  | 4 | 6 | 9 | 11 => 30
  | 2 => if isLeap year then 29 else 28
  | _ => 0

/-- The days from the first of January of year 1 to that of another year. -/
def daysBeforeYear (year : Int) : Int :=
  365 * (year - 1) + (year - 1) / 4 - (year - 1) / 100 + (year - 1) / 400

/-- The days of a year before a month. -/
def daysBeforeMonth (year : Int) (month : Nat) : Nat :=
  ((List.range month).map (monthLength year)).sum

namespace Date

/-- Whether the calendar has a date. -/
structure IsDate (date : Date) : Prop where
  day_pos : 1 ≤ date.day
  day_le : date.day ≤ monthLength date.year date.month

instance (date : Date) : Decidable date.IsDate :=
  decidable_of_iff (1 ≤ date.day ∧ date.day ≤ monthLength date.year date.month)
    ⟨fun h => ⟨h.1, h.2⟩, fun h => ⟨h.day_pos, h.day_le⟩⟩

/-- The day of a date, counted from the first of January 1970. -/
def toDay (date : Date) : Int :=
  daysBeforeYear date.year + daysBeforeMonth date.year date.month + date.day - 1 -
    daysBeforeYear 1970

end Date

/-! ## Years -/

theorem daysBeforeYear_succ (year : Int) :
    daysBeforeYear (year + 1) = daysBeforeYear year + yearLength year := by
  unfold daysBeforeYear yearLength isLeap
  simp only [decide_eq_true_eq]
  split <;> omega

/-- A cycle of 400 years has the same number of days wherever it begins. -/
theorem daysBeforeYear_add_cycles (year cycles : Int) :
    daysBeforeYear (year + 400 * cycles) = daysBeforeYear year + 146097 * cycles := by
  unfold daysBeforeYear
  omega

/-- The days of January and February, and those from March to the end of the year. -/
theorem yearLength_eq (year : Int) : yearLength year = 31 + monthLength year 2 + 306 := by
  unfold yearLength monthLength
  split <;> rfl

/-! ## Days of a cycle -/

/-- A day of a cycle is a day of some century of it, of some four years of that, and of
some year of those. Only the last of four years has a day 365, and only if it is not the
last year of a century, or else of the cycle. -/
theorem yearOfCycle_parts {day : Nat} (h : day < 146097) :
    ∃ century fours year : Nat,
      yearOfCycle day =
        (100 * century + 4 * fours + year, day - 36524 * century - 1461 * fours - 365 * year) ∧
      century ≤ 3 ∧ fours ≤ 24 ∧ year ≤ 3 ∧
      36524 * century + 1461 * fours + 365 * year ≤ day ∧
      day < 36524 * century + 1461 * fours + 365 * year +
        (if year = 3 ∧ (fours < 24 ∨ century = 3) then 366 else 365) := by
  refine ⟨min (day / 36524) 3, (day - min (day / 36524) 3 * 36524) / 1461,
    min ((day - min (day / 36524) 3 * 36524) % 1461 / 365) 3, ?_, ?_, ?_, ?_, ?_, ?_⟩
  · rw [yearOfCycle, Prod.mk.injEq]
    generalize min (day / 36524) 3 = century
    omega
  · omega
  · omega
  · omega
  · generalize hcentury : min (day / 36524) 3 = century
    omega
  · generalize hcentury : min (day / 36524) 3 = century
    split <;> omega

/-- The years of a cycle behind which a leap day comes. -/
theorem isLeap_in_cycle {century fours year : Nat} (hcentury : century ≤ 3) (hfours : fours ≤ 24)
    (hyear : year ≤ 3) :
    isLeap ((100 * century + 4 * fours + year : Nat) + 1) = true ↔
      year = 3 ∧ (fours < 24 ∨ century = 3) := by
  have hfour : ((100 * century + 4 * fours + year : Nat) + 1 : Int) % 4 = 0 ↔ year = 3 := by omega
  have hhundred : ((100 * century + 4 * fours + year : Nat) + 1 : Int) % 100 ≠ 0 ↔
      ¬(fours = 24 ∧ year = 3) := by omega
  have hcycle : ((100 * century + 4 * fours + year : Nat) + 1 : Int) % 400 = 0 ↔
      century = 3 ∧ fours = 24 ∧ year = 3 := by omega
  unfold isLeap
  rw [decide_eq_true_eq, hfour, hhundred, hcycle]
  omega

theorem yearOfCycle_spec {day : Nat} (h : day < 146097) :
    (day : Int) = daysBeforeYear ((yearOfCycle day).1 + 1) + (yearOfCycle day).2 ∧
    (yearOfCycle day).2 < yearLength ((yearOfCycle day).1 + 1) := by
  obtain ⟨century, fours, year, heq, hcentury, hfours, hyear, hle, hlt⟩ := yearOfCycle_parts h
  have hleap := isLeap_in_cycle hcentury hfours hyear
  rw [heq]
  constructor
  · have hquarters : (100 * century + 4 * fours + year) / 4 = 25 * century + fours := by omega
    have hhundreds : (100 * century + 4 * fours + year) / 100 = century := by omega
    have hcycles : (100 * century + 4 * fours + year) / 400 = 0 := by omega
    unfold daysBeforeYear
    omega
  · unfold yearLength
    split at hlt
    · next hlast =>
      rw [if_pos (hleap.2 hlast)]
      omega
    · next hlast =>
      rw [if_neg (mt hleap.1 hlast)]
      omega

/-! ## Days of a year -/

/-- From March to December, five months have 153 days. -/
theorem months_from_march (year : Int) {month : Nat} (h : month < 10) :
    daysBeforeMonth year (month + 3) = 31 + monthLength year 2 + (153 * month + 2) / 5 ∧
    (153 * month + 2) / 5 + monthLength year (month + 3) = (153 * (month + 1) + 2) / 5 := by
  have hmonths : ∀ m < 10, (153 * m + 2) / 5 + monthLength year (m + 3) =
      (153 * (m + 1) + 2) / 5 := by
    intro m hm
    match m, hm with
    | 0, _ | 1, _ | 2, _ | 3, _ | 4, _ | 5, _ | 6, _ | 7, _ | 8, _ | 9, _ => rfl
  refine ⟨?_, hmonths month h⟩
  induction month with
  | zero => simp [daysBeforeMonth, List.range_succ, monthLength]
  | succ month ih =>
    have hlast := hmonths month (by omega)
    have hbefore : daysBeforeMonth year (month + 1 + 3) =
        daysBeforeMonth year (month + 3) + monthLength year (month + 3) := by
      unfold daysBeforeMonth
      rw [show month + 1 + 3 = (month + 3) + 1 by rfl, List.range_succ]
      simp
    have hfirst := ih (by omega)
    omega

/-- A day of a year that begins in March, in the month and on the day that it is found
to be. The last two months are those of the next year. -/
theorem monthOfYear_spec (year : Int) {day : Nat} (h : day < yearLength (year + 1)) :
    let (month, dayOfMonth) := monthOfYear day
    1 ≤ dayOfMonth ∧
    (month < 10 →
      dayOfMonth ≤ monthLength year (month + 3) ∧
      daysBeforeMonth year (month + 3) + dayOfMonth = day + 1 + 31 + monthLength year 2) ∧
    (10 ≤ month →
      dayOfMonth ≤ monthLength (year + 1) (month - 9) ∧
      daysBeforeMonth (year + 1) (month - 9) + dayOfMonth + 306 = day + 1) := by
  rw [yearLength_eq] at h
  unfold monthOfYear
  dsimp only
  generalize hmonth : (5 * day + 2) / 153 = month
  refine ⟨by omega, ?_, ?_⟩
  · intro hlt
    obtain ⟨hbefore, hlength⟩ := months_from_march year hlt
    omega
  · intro hle
    have hjanuary : monthLength (year + 1) 1 = 31 := rfl
    have hfebruary : daysBeforeMonth (year + 1) 2 = 31 := rfl
    have hyear : monthLength (year + 1) 2 ≤ 29 := by
      show (if isLeap (year + 1) then 29 else 28) ≤ 29
      split <;> decide
    have hmonths : month = 10 ∨ month = 11 := by omega
    rcases hmonths with rfl | rfl
    · have hbefore : daysBeforeMonth (year + 1) 1 = 0 := rfl
      simp only [Nat.reduceSub, hjanuary, hbefore]
      omega
    · simp only [Nat.reduceSub, hfebruary]
      omega

/-! ## Dates -/

theorem yearLength_add_cycles (year cycles : Int) :
    yearLength (year + 400 * cycles) = yearLength year := by
  have hfour : (year + 400 * cycles) % 4 = year % 4 := by omega
  have hhundred : (year + 400 * cycles) % 100 = year % 100 := by omega
  have hcycle : (year + 400 * cycles) % 400 = year % 400 := by omega
  unfold yearLength isLeap
  rw [hfour, hhundred, hcycle]

/-- The date of a day is in the calendar, and its days are as many as there were. -/
theorem date_ofDay (day : Int) : (Date.ofDay day).IsDate ∧ (Date.ofDay day).toDay = day := by
  have hcycle : ((day + daysBeforeEpoch) % 146097).toNat < 146097 := by
    unfold daysBeforeEpoch
    omega
  obtain ⟨hday, hlt⟩ := yearOfCycle_spec hcycle
  unfold Date.ofDay
  dsimp only
  generalize yearOfCycle ((day + daysBeforeEpoch) % 146097).toNat = ofCycle at hday hlt ⊢
  obtain ⟨yearInCycle, dayOfYear⟩ := ofCycle
  dsimp only at hday hlt ⊢
  -- From here on the year is counted from year 0, not within its cycle.
  generalize hyear : (day + daysBeforeEpoch) / 146097 * 400 + (yearInCycle : Int) = year
  have hnext : (yearInCycle : Int) + 1 + 400 * ((day + daysBeforeEpoch) / 146097) = year + 1 := by
    omega
  have hyears := daysBeforeYear_add_cycles (yearInCycle + 1) ((day + daysBeforeEpoch) / 146097)
  rw [← yearLength_add_cycles _ ((day + daysBeforeEpoch) / 146097), hnext] at hlt
  rw [hnext] at hyears
  have hlength := yearLength_eq year
  have hsucc := daysBeforeYear_succ year
  have hepoch : daysBeforeYear 1970 = 719162 := rfl
  have hmonths := monthOfYear_spec year hlt
  generalize monthOfYear dayOfYear = ofYear at hmonths ⊢
  obtain ⟨month, dayOfMonth⟩ := ofYear
  obtain ⟨hpos, hsame, hlate⟩ := hmonths
  dsimp only
  unfold daysBeforeEpoch at *
  split
  · next hmonth =>
    obtain ⟨hle, hbefore⟩ := hsame hmonth
    refine ⟨⟨hpos, hle⟩, ?_⟩
    unfold Date.toDay
    dsimp only
    omega
  · next hmonth =>
    obtain ⟨hle, hbefore⟩ := hlate (by omega)
    refine ⟨⟨hpos, hle⟩, ?_⟩
    unfold Date.toDay
    dsimp only
    omega

/-! ## The timestamps that can be written -/

theorem daysBeforeYear_mono {first second : Int} (h : first ≤ second) :
    daysBeforeYear first ≤ daysBeforeYear second := by
  obtain ⟨years, rfl⟩ := Int.le.dest h
  induction years with
  | zero => simp
  | succ years ih =>
    have hsucc := daysBeforeYear_succ (first + years)
    have hle := ih (by omega)
    rw [show first + ((years + 1 : Nat) : Int) = first + years + 1 by omega]
    omega

theorem daysBeforeMonth_add_le (year : Int) {month : Nat} (h : 0 < monthLength year month) :
    daysBeforeMonth year month + monthLength year month ≤ yearLength year := by
  rw [yearLength_eq]
  match month with
  | 0 | 1 | 2 | 3 | 4 | 5 | 6 | 7 | 8 | 9 | 10 | 11 | 12 =>
    simp only [daysBeforeMonth, List.range_succ, List.range_zero, List.nil_append,
      List.cons_append, List.map_cons, List.map_nil, List.sum_cons, List.sum_nil, monthLength]
    omega
  | month + 13 => exact absurd h (Nat.lt_irrefl 0)

/-- A date lies in its year. -/
theorem Date.IsDate.toDay_bounds {date : Date} (h : date.IsDate) :
    daysBeforeYear date.year ≤ date.toDay + daysBeforeYear 1970 ∧
    date.toDay + daysBeforeYear 1970 < daysBeforeYear (date.year + 1) := by
  have hpos := h.day_pos
  have hle := h.day_le
  have hmonth := daysBeforeMonth_add_le date.year (Nat.lt_of_lt_of_le hpos hle)
  rw [daysBeforeYear_succ, toDay]
  omega

/-- The first day of a year, counted from the first of January 1970. -/
def firstDay (year : Int) : Int := Date.toDay ⟨year, 1, 1⟩

theorem firstDay_eq (year : Int) : firstDay year = daysBeforeYear year - daysBeforeYear 1970 := by
  have hbefore : daysBeforeMonth year 1 = 0 := rfl
  unfold firstDay Date.toDay
  dsimp only
  omega

theorem le_year_iff {date : Date} (h : date.IsDate) (year : Int) :
    year ≤ date.year ↔ firstDay year ≤ date.toDay := by
  obtain ⟨hfrom, hto⟩ := h.toDay_bounds
  rw [firstDay_eq]
  constructor
  · intro hle
    have := daysBeforeYear_mono hle
    omega
  · intro hle
    by_cases hyear : year ≤ date.year
    · exact hyear
    · have := daysBeforeYear_mono (show date.year + 1 ≤ year by omega)
      omega

theorem isWritable_iff (timestamp : Timestamp) :
    timestamp.date.isWritable = true ↔
      firstDay (-262143) * 86400 ≤ timestamp.seconds ∧
        timestamp.seconds < firstDay 262143 * 86400 := by
  obtain ⟨hdate, hday⟩ := date_ofDay (timestamp.seconds / 86400)
  have hfirst := le_year_iff hdate (-262143)
  have hlast := le_year_iff hdate 262143
  rw [hday] at hfirst hlast
  unfold Timestamp.date Date.isWritable
  simp only [Bool.and_eq_true, decide_eq_true_eq]
  omega

end Instrumentation.Time
