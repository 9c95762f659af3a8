/-!
# Calendar dates

The proleptic Gregorian calendar. A date is the number of its day, counted from 1970-01-01; year,
month and day of the month are computed from it in years that begin on the first of March, so that
the leap day comes last. Four hundred such years, an era, have 146097 days.
-/

namespace RecordStore

/-- Year, month and day of the month. -/
structure CivilDate where
  year : Int
  month : Nat
  day : Nat
  deriving DecidableEq, Repr

namespace CivilDate

/-- Whether the year has a leap day. -/
def isLeapYear (year : Int) : Bool :=
  year % 4 == 0 && (year % 100 != 0 || year % 400 == 0)

/-- The number of days of a month. -/
def daysInMonth (year : Int) (month : Nat) : Nat :=
  match month with
  | 2 => if isLeapYear year then 29 else 28
  | 4 | 6 | 9 | 11 => 30
  | _ => 31

/-- Whether the month exists and has the day. -/
def exists? (date : CivilDate) : Bool :=
  1 ≤ date.month && date.month ≤ 12 && 1 ≤ date.day
    && date.day ≤ daysInMonth date.year date.month

/-- The number of the day since 1970-01-01. -/
def toDay (date : CivilDate) : Int :=
  let year := if date.month ≤ 2 then date.year - 1 else date.year
  let monthFromMarch : Int := (date.month + 9) % 12
  let dayOfYear := (153 * monthFromMarch + 2) / 5 + date.day - 1
  let yearOfEra := year % 400
  let dayOfEra := yearOfEra * 365 + yearOfEra / 4 - yearOfEra / 100 + dayOfYear
  year / 400 * 146097 + dayOfEra - 719468

/-- The date of a day since 1970-01-01. -/
def ofDay (day : Int) : CivilDate :=
  let shifted := day + 719468
  let dayOfEra := shifted % 146097
  let yearOfEra :=
    (dayOfEra - dayOfEra / 1460 + dayOfEra / 36524 - dayOfEra / 146096) / 365
  let dayOfYear := dayOfEra - (365 * yearOfEra + yearOfEra / 4 - yearOfEra / 100)
  let monthFromMarch := (5 * dayOfYear + 2) / 153
  let dayOfMonth := dayOfYear - (153 * monthFromMarch + 2) / 5 + 1
  let month := if monthFromMarch < 10 then monthFromMarch + 3 else monthFromMarch - 9
  let year := yearOfEra + shifted / 146097 * 400
  ⟨if month ≤ 2 then year + 1 else year, month.toNat, dayOfMonth.toNat⟩

end CivilDate

/-- The first day that a date can name, -262143-01-01. -/
def firstDay : Int := -96465292

/-- The last day that a date can name, 262142-12-31. -/
def lastDay : Int := 95026236

/-- A date of the calendar. -/
structure CalendarDate where
  /-- The day, counted from 1970-01-01. -/
  day : Int
  inRange : firstDay ≤ day ∧ day ≤ lastDay
  deriving DecidableEq, Repr

namespace CalendarDate

/-- The date of a day, if it is within range. -/
def ofDay? (day : Int) : Option CalendarDate :=
  if h : firstDay ≤ day ∧ day ≤ lastDay then some ⟨day, h⟩ else none

/-- The date with a year, month and day of the month, if there is one within range. -/
def ofCivil? (date : CivilDate) : Option CalendarDate :=
  if date.exists? then ofDay? date.toDay else none

/-- Year, month and day of the month. -/
def civil (date : CalendarDate) : CivilDate := .ofDay date.day

end CalendarDate

end RecordStore
