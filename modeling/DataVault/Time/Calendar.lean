/-
Module: DataVault.Time.Calendar
Layer: Library
Purpose: The UTC calendar of the JavaScript Date object over unbounded integers: the day of a time value,
  the year, month and date of a day, and `Date.UTC`, with the definitions the ECMAScript specification
  gives them. Months are counted from 0 and are also numbered consecutively (`12 * year + month`), so that
  month arithmetic is integer arithmetic; `monthStart` turns such a number back into a day, and every day
  lies in exactly one month. A time value is the number of milliseconds since 1970-01-01T00:00:00Z.
Imports: Mathlib.Tactic.Common
Trusted boundary: human-reviewed spec
Main exports: dayFromYear, yearFromDay, monthIndex, dateFromTime, utc, monthStart,
  monthIndex_spec, monthStart_lt, dateFromTime_utc_zero
-/
import Mathlib.Tactic.Common
import Mathlib.Order.Basic

namespace DataVault.Calendar

/-- ECMAScript `Day(t)`. -/
def day (t : Int) : Int := t / 86400000

/-- ECMAScript `TimeWithinDay(t)`. -/
def timeWithinDay (t : Int) : Int := t % 86400000

/-- One in a leap year, zero otherwise. -/
def leapDay (year : Int) : Int :=
  if (year % 4 = 0 ∧ year % 100 ≠ 0) ∨ year % 400 = 0 then 1 else 0

/-- ECMAScript `DayFromYear(y)`: the day number of 1 January. -/
def dayFromYear (year : Int) : Int :=
  365 * (year - 1970) + (year - 1969) / 4 - (year - 1901) / 100 + (year - 1601) / 400

/-- The year of a day: the estimate by the mean length of a Gregorian year is off by at most one. -/
def yearFromDay (d : Int) : Int :=
  let year := 1970 + d * 400 / 146097
  if d < dayFromYear year then year - 1
  else if dayFromYear (year + 1) ≤ d then year + 1
  else year

/-- Days of a year before the first of a month, months counted from 0. -/
def daysBeforeMonth (leap month : Int) : Int :=
  (367 * month + 5) / 12 - if month < 2 then 0 else 2 - leap

example : [0, 1, 2, 3, 4, 5, 6, 7, 8, 9, 10, 11].map (daysBeforeMonth 0) =
    [0, 31, 59, 90, 120, 151, 181, 212, 243, 273, 304, 334] := by decide

/-- The month, counted from 0, of a day counted from 0 within its year. -/
def monthFromDayWithinYear (leap d : Int) : Int :=
  (12 * (d + if d < 59 + leap then 0 else 2 - leap) + 6) / 367

def yearFromTime (t : Int) : Int := yearFromDay (day t)

def dayWithinYear (t : Int) : Int := day t - dayFromYear (yearFromTime t)

def monthFromTime (t : Int) : Int :=
  monthFromDayWithinYear (leapDay (yearFromTime t)) (dayWithinYear t)

/-- `getUTCDate`, counted from 1. -/
def dateFromTime (t : Int) : Int :=
  dayWithinYear t - daysBeforeMonth (leapDay (yearFromTime t)) (monthFromTime t) + 1

def hourFromTime (t : Int) : Int := t / 3600000 % 24
def minFromTime (t : Int) : Int := t / 60000 % 60
def secFromTime (t : Int) : Int := t / 1000 % 60
def msFromTime (t : Int) : Int := t % 1000

/-- ECMAScript `MakeDay`; the month may lie outside 0..11 and the date outside its month. -/
def makeDay (year month date : Int) : Int :=
  dayFromYear (year + month / 12) + daysBeforeMonth (leapDay (year + month / 12)) (month % 12) + date - 1

/-- ECMAScript `MakeTime`. -/
def makeTime (hour min sec ms : Int) : Int :=
  hour * 3600000 + min * 60000 + sec * 1000 + ms

/-- `Date.UTC` for years from 100 on, and for negative ones. JavaScript takes a year from 0 to 99 to be one of the
twentieth century; no date that the services store or read is that old. -/
def utc (year month date hour min sec ms : Int) : Int :=
  makeDay year month date * 86400000 + makeTime hour min sec ms

/-- Months numbered consecutively over the years. -/
def monthIndex (t : Int) : Int := yearFromTime t * 12 + monthFromTime t

/-- The day number of the first of a consecutively numbered month. -/
def monthStart (index : Int) : Int := makeDay (index / 12) (index % 12) 1

example : utc 2028 1 29 0 0 0 0 = 1835395200000 := by decide
example : dateFromTime 1835395200000 = 29 := by decide
example : monthFromTime 1835395200000 = 1 := by decide

/-! ### Years -/

theorem leapDay_bounds (year : Int) : 0 ≤ leapDay year ∧ leapDay year ≤ 1 := by
  unfold leapDay
  split <;> omega

theorem dayFromYear_succ (year : Int) :
    dayFromYear (year + 1) = dayFromYear year + 365 + leapDay year := by
  unfold dayFromYear leapDay
  split <;> omega

/-- Every day lies in the year it is given. -/
theorem yearFromDay_spec (d : Int) :
    dayFromYear (yearFromDay d) ≤ d ∧ d < dayFromYear (yearFromDay d + 1) := by
  unfold yearFromDay
  simp only
  split
  · rw [Int.sub_add_cancel]
    unfold dayFromYear at *
    omega
  · split
    · unfold dayFromYear at *
      omega
    · omega

/-! ### Months -/

theorem monthFromDayWithinYear_spec {leap d : Int} (leapBounds : 0 ≤ leap ∧ leap ≤ 1)
    (within : 0 ≤ d ∧ d < 365 + leap) :
    0 ≤ monthFromDayWithinYear leap d ∧ monthFromDayWithinYear leap d < 12 ∧
      daysBeforeMonth leap (monthFromDayWithinYear leap d) ≤ d ∧
      d < daysBeforeMonth leap (monthFromDayWithinYear leap d + 1) := by
  simp only [monthFromDayWithinYear, daysBeforeMonth]
  split <;> split <;> split <;> omega

theorem daysBeforeMonth_twelve {leap : Int} : daysBeforeMonth leap 12 = 365 + leap := by
  unfold daysBeforeMonth
  split <;> omega

theorem daysBeforeMonth_succ {leap : Int} (month : Int) (leapBounds : 0 ≤ leap ∧ leap ≤ 1)
    (within : 0 ≤ month ∧ month < 12) :
    daysBeforeMonth leap month + 28 ≤ daysBeforeMonth leap (month + 1) ∧
      daysBeforeMonth leap (month + 1) ≤ daysBeforeMonth leap month + 31 := by
  unfold daysBeforeMonth
  split <;> split <;> omega

theorem monthStart_eq (index : Int) :
    monthStart index = dayFromYear (index / 12) +
      daysBeforeMonth (leapDay (index / 12)) (index % 12) := by
  have year : index / 12 + index % 12 / 12 = index / 12 := by omega
  have month : index % 12 % 12 = index % 12 := by omega
  unfold monthStart makeDay
  rw [year, month]
  omega

/-- The next month starts where the cumulative table of the same year says, also in December. -/
theorem monthStart_succ_eq (index : Int) :
    monthStart (index + 1) = dayFromYear (index / 12) +
      daysBeforeMonth (leapDay (index / 12)) (index % 12 + 1) := by
  rw [monthStart_eq]
  by_cases december : index % 12 = 11
  · have year : (index + 1) / 12 = index / 12 + 1 := by omega
    have month : (index + 1) % 12 = 0 := by omega
    have table : index % 12 + 1 = 12 := by omega
    rw [year, month, table, dayFromYear_succ, daysBeforeMonth_twelve]
    simp [daysBeforeMonth]
    omega
  · have year : (index + 1) / 12 = index / 12 := by omega
    have month : (index + 1) % 12 = index % 12 + 1 := by omega
    rw [year, month]

/-- The number of days of a month. -/
def monthLength (index : Int) : Int := monthStart (index + 1) - monthStart index

theorem monthLength_bounds (index : Int) : 28 ≤ monthLength index ∧ monthLength index ≤ 31 := by
  have bounds := daysBeforeMonth_succ (index % 12) (leapDay_bounds (index / 12)) (by omega)
  unfold monthLength
  rw [monthStart_succ_eq, monthStart_eq]
  omega

theorem monthStart_succ (index : Int) :
    monthStart (index + 1) = monthStart index + monthLength index := by
  unfold monthLength
  omega

theorem monthStart_add_le (index : Int) (n : Nat) :
    monthStart index + n ≤ monthStart (index + n) := by
  induction n with
  | zero => simp
  | succ n ih =>
      have step := monthStart_succ (index + n)
      have bounds := monthLength_bounds (index + n)
      have same : index + ((n + 1 : Nat) : Int) = index + n + 1 := by omega
      rw [same]
      omega

/-- Later months start later. -/
theorem monthStart_lt {first second : Int} (later : first < second) :
    monthStart first < monthStart second := by
  obtain ⟨n, rfl⟩ : ∃ n : Nat, second = first + n := ⟨(second - first).toNat, by omega⟩
  have := monthStart_add_le first n
  omega

theorem monthStart_le {first second : Int} (later : first ≤ second) :
    monthStart first ≤ monthStart second := by
  rcases Int.lt_or_eq_of_le later with later | rfl
  · exact Int.le_of_lt (monthStart_lt later)
  · exact Int.le_refl _

/-! ### The month and date of a time value -/

theorem dayWithinYear_bounds (t : Int) :
    0 ≤ dayWithinYear t ∧ dayWithinYear t < 365 + leapDay (yearFromTime t) := by
  have bounds := yearFromDay_spec (day t)
  have next := dayFromYear_succ (yearFromDay (day t))
  unfold dayWithinYear yearFromTime
  omega

theorem monthFromTime_bounds (t : Int) : 0 ≤ monthFromTime t ∧ monthFromTime t < 12 := by
  have spec := monthFromDayWithinYear_spec (leapDay_bounds _) (dayWithinYear_bounds t)
  exact ⟨spec.1, spec.2.1⟩

theorem monthIndex_div (t : Int) : monthIndex t / 12 = yearFromTime t := by
  have := monthFromTime_bounds t
  unfold monthIndex
  omega

theorem monthIndex_mod (t : Int) : monthIndex t % 12 = monthFromTime t := by
  have := monthFromTime_bounds t
  unfold monthIndex
  omega

/-- Every time value lies in the month it is given. -/
theorem monthIndex_spec (t : Int) :
    monthStart (monthIndex t) ≤ day t ∧ day t < monthStart (monthIndex t + 1) := by
  have spec := monthFromDayWithinYear_spec (leapDay_bounds _) (dayWithinYear_bounds t)
  rw [monthStart_succ_eq, monthStart_eq, monthIndex_div, monthIndex_mod]
  unfold monthFromTime dayWithinYear at *
  omega

/-- The month of a day is the only one whose days include it. -/
theorem monthIndex_unique {t : Int} {index : Int} (starts : monthStart index ≤ day t)
    (ends : day t < monthStart (index + 1)) : monthIndex t = index := by
  have spec := monthIndex_spec t
  rcases Int.lt_trichotomy (monthIndex t) index with before | same | after
  · have := monthStart_le (show monthIndex t + 1 ≤ index by omega)
    omega
  · exact same
  · have := monthStart_le (show index + 1 ≤ monthIndex t by omega)
    omega

theorem dateFromTime_eq (t : Int) : dateFromTime t = day t - monthStart (monthIndex t) + 1 := by
  rw [monthStart_eq, monthIndex_div, monthIndex_mod]
  unfold dateFromTime dayWithinYear
  omega

theorem dateFromTime_bounds (t : Int) :
    1 ≤ dateFromTime t ∧ dateFromTime t ≤ monthLength (monthIndex t) := by
  have spec := monthIndex_spec t
  have next := monthStart_succ (monthIndex t)
  rw [dateFromTime_eq]
  omega

/-! ### `Date.UTC` -/

theorem makeTime_fields (t : Int) :
    makeTime (hourFromTime t) (minFromTime t) (secFromTime t) (msFromTime t) = timeWithinDay t := by
  unfold makeTime hourFromTime minFromTime secFromTime msFromTime timeWithinDay
  omega

theorem makeDay_eq (year month date : Int) :
    makeDay year month date = monthStart (year * 12 + month) + date - 1 := by
  have index : (year * 12 + month) / 12 = year + month / 12 := by omega
  have rest : (year * 12 + month) % 12 = month % 12 := by omega
  rw [monthStart_eq, index, rest]
  rfl

/-- Day 0 of the following month is the last day of a month. -/
theorem dateFromTime_utc_zero (year month : Int) :
    dateFromTime (utc year (month + 1) 0 0 0 0 0) = monthLength (year * 12 + month) := by
  have last : day (utc year (month + 1) 0 0 0 0 0) = monthStart (year * 12 + month + 1) - 1 := by
    unfold utc day makeTime
    rw [makeDay_eq]
    have same : year * 12 + (month + 1) = year * 12 + month + 1 := by omega
    rw [same]
    omega
  have bounds := monthLength_bounds (year * 12 + month)
  have next := monthStart_succ (year * 12 + month)
  have index : monthIndex (utc year (month + 1) 0 0 0 0 0) = year * 12 + month :=
    monthIndex_unique (by omega) (by omega)
  rw [dateFromTime_eq, index, last]
  omega

end DataVault.Calendar
