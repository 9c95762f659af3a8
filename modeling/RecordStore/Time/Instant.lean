import RecordStore.Time.Calendar

/-!
# Instants

A point of UTC time, to the nanosecond. A leap second is the second after the last of a minute: it
shares the number of that second and has a billion nanoseconds more.
-/

namespace RecordStore

/-- The number of seconds of a day. -/
def secondsPerDay : Int := 86400

/-- A point of UTC time. -/
structure Instant where
  /-- The second, counted from 1970-01-01T00:00:00. -/
  second : Int
  /-- The nanosecond within the second; a billion and more in a leap second. -/
  nanos : Nat
  inRange : firstDay * secondsPerDay ≤ second ∧ second < (lastDay + 1) * secondsPerDay
  nanosBound : nanos < 2000000000
  leapAtMinuteEnd : 1000000000 ≤ nanos → second % 60 = 59
  deriving DecidableEq, Repr

/-- The time of day: hour, minute, second and nanosecond. The second is 60 in a leap second. -/
structure ClockTime where
  hour : Nat
  minute : Nat
  second : Nat
  nanos : Nat
  deriving DecidableEq, Repr

namespace ClockTime

/-- Whether the hour, minute and second exist. -/
def exists? (time : ClockTime) : Bool :=
  time.hour ≤ 23 && time.minute ≤ 59 && time.second ≤ 60 && time.nanos < 1000000000

end ClockTime

namespace Instant

/-- The instant with a second and nanosecond, if there is one. -/
def ofSeconds? (second : Int) (nanos : Nat) : Option Instant :=
  if h : (firstDay * secondsPerDay ≤ second ∧ second < (lastDay + 1) * secondsPerDay)
      ∧ nanos < 2000000000 ∧ (1000000000 ≤ nanos → second % 60 = 59) then
    some ⟨second, nanos, h.1, h.2.1, h.2.2⟩
  else none

/-- The instant a number of milliseconds after the epoch, if there is one. -/
def ofMillis? (millis : Int) : Option Instant :=
  ofSeconds? (millis / 1000) ((millis % 1000).toNat * 1000000)

/-- The first instant of a date. -/
def midnight (date : CalendarDate) : Instant where
  second := date.day * secondsPerDay
  nanos := 0
  inRange := by
    have := date.inRange
    simp only [firstDay, lastDay, secondsPerDay] at *
    omega
  nanosBound := by decide
  leapAtMinuteEnd := by omega

/-- The instant at a date and time of day that stand `offset` seconds ahead of UTC. -/
def ofLocal? (date : CivilDate) (time : ClockTime) (offset : Int) : Option Instant := do
  let local_ ← CalendarDate.ofCivil? date
  if !time.exists? then none
  let leap := time.second = 60
  let second : Int := time.hour * 3600 + time.minute * 60 + (if leap then 59 else time.second : Nat)
  ofSeconds? (local_.day * secondsPerDay + second - offset)
    (if leap then time.nanos + 1000000000 else time.nanos)

/-- The UTC date. -/
def civil (instant : Instant) : CivilDate := .ofDay (instant.second / secondsPerDay)

/-- The UTC time of day. -/
def clock (instant : Instant) : ClockTime :=
  let ofDay := (instant.second % secondsPerDay).toNat
  let leap := 1000000000 ≤ instant.nanos
  { hour := ofDay / 3600
    minute := ofDay / 60 % 60
    second := if leap then ofDay % 60 + 1 else ofDay % 60
    nanos := if leap then instant.nanos - 1000000000 else instant.nanos }

end Instant

end RecordStore
