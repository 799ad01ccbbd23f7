/-!
# Dates

Days of the proleptic Gregorian calendar. `Date.dayNumber` counts the days
from 1970-01-01 by adding up years and months; `Date.ofDayNumber` goes back
with the 400-year cycle, counted from the first of March, so that the leap day
is the last day of its year. Dates exist from -262143-01-01 to +262142-12-31.
-/
namespace Booking

/-- A day of the proleptic Gregorian calendar; year 0 is the year before year 1. -/
structure Date where
  year : Int
  month : Nat
  day : Nat
deriving DecidableEq, Repr

/-- Years divisible by 4, but of the full centuries only those divisible by 400. -/
def Date.isLeapYear (year : Int) : Bool :=
  year % 4 == 0 && (year % 100 != 0 || year % 400 == 0)

def Date.monthLength (year : Int) : Nat → Nat
  | 2 => if Date.isLeapYear year then 29 else 28
  | 4 | 6 | 9 | 11 => 30
  | _ => 31

def Date.isValid (d : Date) : Bool :=
  1 ≤ d.month && d.month ≤ 12 && 1 ≤ d.day && d.day ≤ Date.monthLength d.year d.month

/-- The number of days from the first day of year 0 to the first day of the given year. -/
def Date.daysBeforeYear (year : Int) : Int :=
  365 * year + (year + 3) / 4 - (year + 99) / 100 + (year + 399) / 400

def Date.daysBeforeMonth (year : Int) : Nat → Nat
  | 0 | 1 => 0
  | m + 2 => Date.daysBeforeMonth year (m + 1) + Date.monthLength year (m + 1)

/-- The number of the date's day; day 0 is 1970-01-01. -/
def Date.dayNumber (d : Date) : Int :=
  Date.daysBeforeYear d.year + Date.daysBeforeMonth d.year d.month + d.day - 1 - 719528

/-- The date of a day number. A year of the cycle starts in March: month 0 is March, month 11 February. -/
def Date.ofDayNumber (n : Int) : Date :=
  -- day 0 of the count below is 0000-03-01; a cycle has 146097 days
  let shifted := n + 719468
  let cycle := shifted / 146097
  let dayOfCycle := (shifted % 146097).toNat
  let yearOfCycle :=
    (dayOfCycle - dayOfCycle / 1460 + dayOfCycle / 36524 - dayOfCycle / 146096) / 365
  let dayOfYear := dayOfCycle - (365 * yearOfCycle + yearOfCycle / 4 - yearOfCycle / 100)
  let monthOfYear := (5 * dayOfYear + 2) / 153
  let day := dayOfYear - (153 * monthOfYear + 2) / 5 + 1
  let month := if monthOfYear < 10 then monthOfYear + 3 else monthOfYear - 9
  let year : Int := cycle * 400 + yearOfCycle
  { year := if month ≤ 2 then year + 1 else year, month, day }

/-- The day of the week: 0 is Sunday, 6 Saturday. -/
def Date.weekday (n : Int) : Nat := ((n + 4) % 7).toNat

/-- The number of the first date, -262143-01-01. -/
def Date.firstDay : Int := -96465292

/-- The number of the last date, +262142-12-31. -/
def Date.lastDay : Int := 95026236

def Date.hasDay (n : Int) : Bool := Date.firstDay ≤ n && n ≤ Date.lastDay

example : Date.dayNumber ⟨-262143, 1, 1⟩ = Date.firstDay := by decide
example : Date.dayNumber ⟨262142, 12, 31⟩ = Date.lastDay := by decide
example : Date.ofDayNumber 19782 = ⟨2024, 2, 29⟩ := by decide

end Booking
