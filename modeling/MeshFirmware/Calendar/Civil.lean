import MeshFirmware.Clock

/-!
# Civil dates

Dates of the Gregorian calendar, carried on to all years, and the day number of each: the days from
the first of January 1970.
-/

namespace MeshFirmware.Calendar

/-- Every fourth year is a leap year, except the centuries that four does not divide. -/
def isLeapYear (y : Int) : Bool := y % 4 == 0 && (y % 100 != 0 || y % 400 == 0)

/-- The days of a month of the year. -/
def daysInMonth (y : Int) (m : Nat) : Nat :=
  match m with
  | 1 | 3 | 5 | 7 | 8 | 10 | 12 => 31
  | 4 | 6 | 9 | 11 => 30
  | 2 => if isLeapYear y then 29 else 28
  | _ => 0

/-- The days of the year before this month. -/
def daysBeforeMonth (y : Int) : Nat → Nat
  | 0 => 0
  | m + 1 => daysBeforeMonth y m + daysInMonth y m

/-- The days from the first of January of the year 1 to the first of January of this year. -/
def daysBeforeYear (y : Int) : Int :=
  365 * (y - 1) + (y - 1) / 4 - (y - 1) / 100 + (y - 1) / 400

/-- A day of the calendar. -/
structure CivilDate where
  year : Int
  month : Nat
  day : Nat
  deriving DecidableEq, Repr

namespace CivilDate

/-- The years that a date can be in. -/
def firstYear : Int := -262143

/-- The last year that a date can be in. -/
def lastYear : Int := 262142

/-- Whether the calendar has this day. -/
def isValid (d : CivilDate) : Bool :=
  firstYear ≤ d.year && d.year ≤ lastYear && 1 ≤ d.month && d.month ≤ 12
    && 1 ≤ d.day && d.day ≤ daysInMonth d.year d.month

/-- The days from the first of January 1970 to this day. -/
def dayNumber (d : CivilDate) : Int :=
  daysBeforeYear d.year - daysBeforeYear 1970 + daysBeforeMonth d.year d.month + (d.day - 1)

end CivilDate

/-- Whether the instant lies within the days that a date can be. -/
def inCalendar (t : Instant) : Bool :=
  let day := t.seconds / secondsPerDay
  (CivilDate.mk CivilDate.firstYear 1 1).dayNumber ≤ day
    && day ≤ (CivilDate.mk CivilDate.lastYear 12 31).dayNumber

end MeshFirmware.Calendar
