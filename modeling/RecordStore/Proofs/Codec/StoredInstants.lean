import RecordStore.Proofs.Codec.Dates
import RecordStore.Proofs.Time.Offsets

/-!
# Stored forms of an instant

A store may hold an instant as such, as one of the texts that tell it, as the number of milliseconds
since 1970, or as a date if it is a midnight. The codec of dates reads all of them as the normal form of
the instant (`Codec.decode_date_of_storedAs`).
-/

namespace RecordStore

namespace Instant

/-- The whole milliseconds since 1970-01-01T00:00:00. -/
def millis (instant : Instant) : Int := instant.second * 1000 + instant.nanos / 1000000

/-- The stored values that tell an instant: the instant itself, its texts, also as JSON, its
milliseconds if it is in no leap second, and its date if it is a midnight. -/
inductive StoredAs (instant : Instant) : StoredValue → Prop where
  | instant : StoredAs instant (.instant instant)
  | string {text : String} (told : instant.IsToldBy text) : StoredAs instant (.string text)
  | json {text : String} (told : instant.IsToldBy text) : StoredAs instant (.json (.string text))
  | millis {integer : Int64} (noLeap : instant.nanos < 1000000000)
    (counted : integer.toInt = instant.millis) : StoredAs instant (.integer integer)
  | date {date : CalendarDate} (midnight : Instant.midnight date = instant) :
    StoredAs instant (.date date)

variable {instant : Instant}

/-- Milliseconds are read as the instant cut to milliseconds, also those before 1970. -/
theorem ofMillis?_millis (noLeap : instant.nanos < 1000000000) :
    ofMillis? instant.millis = some (instant.cut .millis) := by
  have second : instant.millis / 1000 = instant.second := by
    rw [millis]
    omega
  have nanos : (instant.millis % 1000).toNat * 1000000 = SecondFraction.millis.cut instant.nanos := by
    rw [millis, SecondFraction.cut]
    omega
  rw [ofMillis?, second, nanos]
  exact (instant.cut .millis).ofSeconds?_self

/-- A stored value that tells an instant is read as the instant, as far as its fraction is stored. -/
theorem StoredAs.instant? (short : instant.HasShortYear) {stored : StoredValue}
    (told : instant.StoredAs stored) :
    ∃ fraction, stored.instant? = some (instant.cut fraction) := by
  cases told with
  | instant => exact ⟨.shortest, rfl⟩
  | string text => exact ofStored?_of_isToldBy short text
  | json text => exact ofStored?_of_isToldBy short text
  | millis noLeap counted =>
    refine ⟨.millis, ?_⟩
    rw [StoredValue.instant?, counted]
    exact ofMillis?_millis noLeap
  | date midnight =>
    rw [← midnight]
    exact ⟨.shortest, rfl⟩

end Instant

namespace Codec

/-- Whatever the form in which an instant of the years 0 to 9999 is stored, it is decoded as its normal
form. -/
theorem decode_date_of_storedAs {instant : Instant} (short : instant.HasShortYear)
    {stored : StoredValue} (told : instant.StoredAs stored) :
    date.decode stored = .ok (.string instant.toIsoText) := by
  obtain ⟨fraction, read⟩ := told.instant? short
  rw [← instant.toIsoText_cut fraction]
  exact (decode_date_eq_ok_iff _ _).2 (.inr ⟨_, read, rfl⟩)

/-- Half an hour before 1970 in UTC it is already the first of January where the time is ahead. -/
theorem decode_date_of_storedAs_newYear :
    let instant : Instant := ⟨-1800, 250000000, by decide, by decide, by decide⟩
    let stored : StoredValue := .json (.string "\u00a01970-01-01 05:00:00.250+05:30\n")
    instant.HasShortYear ∧ instant.StoredAs stored ∧
      date.decode stored = .ok (.string "1969-12-31T23:30:00.250Z") := by
  intro instant stored
  have spelled : String.ofList (['\u00a0'] ++ ((instant.civilAt 330).text ++
      ' ' :: (instant.clockAt 330).text .millis ++ offsetText 330) ++ ['\n']) =
        "\u00a01970-01-01 05:00:00.250+05:30\n" := by decide
  have written := @Instant.WrittenAs.offset instant 330 ' ' _ (by decide) (.inr rfl) .millis
    (.numeric (by decide))
  have told : instant.IsToldBy "\u00a01970-01-01 05:00:00.250+05:30\n" :=
    ⟨['\u00a0'], _, ['\n'], spelled, written, List.all_eq_true.1 (by decide),
      List.all_eq_true.1 (by decide)⟩
  have short : instant.HasShortYear := by decide
  have normal : instant.toIsoText = "1969-12-31T23:30:00.250Z" := by decide
  rw [← normal]
  exact ⟨short, .json told, decode_date_of_storedAs short (.json told)⟩

end Codec

end RecordStore
