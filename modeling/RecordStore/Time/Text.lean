import RecordStore.Text.Digits
import RecordStore.Time.Instant

/-!
# Timestamps as text

Dates are `2022-04-03` and instants `2022-04-03T10:20:30` with a fraction and the offset of UTC. Years
outside of 0 to 9999 carry a sign, and at least four digits.
-/

namespace RecordStore

open Text

/-- The date as year, month and day. -/
def CivilDate.text (date : CivilDate) : List Char :=
  let year :=
    if 0 ≤ date.year ∧ date.year ≤ 9999 then paddedDigits 4 date.year.toNat
    else (if date.year < 0 then '-' else '+') :: paddedDigits 4 date.year.natAbs
  year ++ '-' :: paddedDigits 2 date.month ++ '-' :: paddedDigits 2 date.day

/-- The date as a string. -/
def CalendarDate.toText (date : CalendarDate) : String := String.ofList date.civil.text

/-- How many digits of a second are written. -/
inductive SecondFraction where
  /-- Three digits always; further ones are cut off. -/
  | millis
  /-- None, three, six or nine digits, as few as tell the nanoseconds. -/
  | shortest
  deriving DecidableEq, Repr

/-- The fraction of a second, with its point. -/
def SecondFraction.text : SecondFraction → Nat → List Char
  | millis, nanos => '.' :: paddedDigits 3 (nanos / 1000000)
  | shortest, nanos =>
    if nanos = 0 then []
    else if nanos % 1000000 = 0 then '.' :: paddedDigits 3 (nanos / 1000000)
    else if nanos % 1000 = 0 then '.' :: paddedDigits 6 (nanos / 1000)
    else '.' :: paddedDigits 9 nanos

/-- The time of day, with its fraction. -/
def ClockTime.text (fraction : SecondFraction) (time : ClockTime) : List Char :=
  paddedDigits 2 time.hour ++ ':' :: paddedDigits 2 time.minute ++ ':' :: paddedDigits 2 time.second
    ++ fraction.text time.nanos

namespace Instant

/-- Date and time of day in UTC, without an offset. -/
def text (fraction : SecondFraction) (instant : Instant) : List Char :=
  instant.civil.text ++ 'T' :: instant.clock.text fraction

/-- The normal form of a timestamp in records: milliseconds and the offset `Z`. -/
def toIsoText (instant : Instant) : String :=
  String.ofList (instant.text .millis ++ ['Z'])

/-- The timestamp to its full precision, with the offset `Z`. -/
def toFullText (instant : Instant) : String :=
  String.ofList (instant.text .shortest ++ ['Z'])

/-- The timestamp to its full precision, with a numeric offset. -/
def toOffsetText (instant : Instant) : String :=
  String.ofList (instant.text .shortest ++ "+00:00".toList)

end Instant

end RecordStore
