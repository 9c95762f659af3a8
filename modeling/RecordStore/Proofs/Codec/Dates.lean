import RecordStore.Codec.Structure
import RecordStore.Proofs.Time.Layouts

/-!
# Dates that are read and stored again

A date is read in normal form, and the normal form is stored as the instant it tells. That instant is
read as the same normal form, so dates settle after one reading, but only if their year is written with
four digits: a year with a sign is not understood, the text is stored as it is and cannot be read any
more (`Codec.date_again_iff`).
-/

namespace RecordStore.Codec

theorem decode_date_of_present {stored : StoredValue} (present : stored.isNull = false) :
    date.decode stored =
      match stored.instant? with
      | some instant => .ok (.string instant.toIsoText)
      | none => .error (.decode .date stored) := by
  rw [decode, present, if_neg Bool.false_ne_true]
  rfl

/-- Null is read as null, and anything else in the normal form of the instant that it tells. -/
theorem decode_date_eq_ok_iff (stored : StoredValue) (read : Json) :
    date.decode stored = .ok read ↔
      (stored = .null ∧ read = .null) ∨
        ∃ instant, stored.instant? = some instant ∧ read = .string instant.toIsoText := by
  by_cases null : stored = .null
  · subst null
    simp only [decode_null, StoredValue.instant?, Except.ok.injEq, true_and, reduceCtorEq,
      false_and, exists_false, or_false, eq_comm]
  · have present : stored.isNull = false := by rwa [← Bool.not_eq_true, StoredValue.isNull_iff]
    rw [decode_date_of_present present]
    cases stored.instant? <;> simp [null, eq_comm]

/-- The normal form of an instant is stored as the instant, cut to milliseconds, or as the text it is. -/
theorem encode_date_toIsoText (instant : Instant) :
    date.encode (.string instant.toIsoText) =
      if instant.HasShortYear then .instant (instant.cut .millis) else .string instant.toIsoText := by
  have read := instant.ofStored?_toIsoText_eq
  split
  · next short =>
    rw [if_pos short] at read
    simp only [date, read]
  · next signed =>
    rw [if_neg signed] at read
    simp only [date, read]

/-- A normal form is stored and read as it is, or refused where its year carries a sign. -/
theorem decode_date_toIsoText (instant : Instant) :
    date.decode (date.encode (.string instant.toIsoText)) =
      if instant.HasShortYear then .ok (.string instant.toIsoText)
      else .error (.decode .date (.string instant.toIsoText)) := by
  rw [encode_date_toIsoText]
  split
  · next short =>
    rw [← instant.toIsoText_cut_millis]
    rfl
  · next signed =>
    have untold : (StoredValue.string instant.toIsoText).instant? = none := by
      rw [StoredValue.instant?, instant.ofStored?_toIsoText_eq, if_neg signed]
    rw [decode_date_of_present rfl, untold]

/-- A date that was read is stored and read again as the same date exactly if the instant it was read
from has a year of four digits, or there is none because the date is null. With any other year it is
stored as text and refused as no date. -/
theorem date_again_iff {value read : Json} (decoded : date.decode (date.encode value) = .ok read) :
    (date.decode (date.encode read) = .ok read ↔
      ∀ instant, (date.encode value).instant? = some instant → instant.HasShortYear) ∧
    ∀ instant, (date.encode value).instant? = some instant → ¬ instant.HasShortYear →
      date.decode (date.encode read) = .error (.decode .date (.string instant.toIsoText)) := by
  rcases (decode_date_eq_ok_iff _ _).1 decoded with ⟨null, rfl⟩ | ⟨instant, told, rfl⟩
  · have nothing : (date.encode value).instant? = none := by
      rw [null]
      rfl
    have again : date.decode (date.encode .null) = .ok .null := rfl
    simp only [nothing, reduceCtorEq, false_imp_iff, implies_true, again, and_self]
  · simp only [told, Option.some_inj, forall_eq', decode_date_toIsoText]
    by_cases short : instant.HasShortYear
    · simp only [short, if_true, not_true, false_imp_iff, and_self]
    · simp only [short, if_false, reduceCtorEq, not_false_eq_true, true_imp_iff, and_self]

/-- A quarter second into a leap second, written five hours behind UTC, settles in UTC. -/
theorem date_again_iff_leapSecond :
    let read : Json := .string "2016-12-31T23:59:60.250Z"
    date.decode (date.encode (.string "2016-12-31 18:59:60.25 -05:00")) = .ok read ∧
      date.decode (date.encode read) = .ok read := by
  intro read
  have decoded : date.decode (date.encode (.string "2016-12-31 18:59:60.25 -05:00")) = .ok read := rfl
  refine ⟨decoded, (date_again_iff decoded).1.2 fun instant told => ?_⟩
  cases told
  decide

/-- One second before the year 10000 in a zone behind UTC is read with a sign before its year, and not
read again. -/
theorem decode_date_after_9999 :
    let read : Json := .string "+10000-01-01T00:59:59.000Z"
    date.decode (date.encode (.string "9999-12-31T23:59:59-01:00")) = .ok read ∧
      date.decode (date.encode read) ≠ .ok read :=
  ⟨rfl, nofun⟩

end RecordStore.Codec
