import RecordStore.Proofs.Time.Document

/-!
# The layout that reads a normal form

Of the layouts of stored timestamps only the interchange format takes both the `T` of a normal form and
the offset at its end, and it takes no sign. So the text of an instant in UTC is read back, as the
instant with the fraction that is written, if its year is written with four digits, and is no stored
timestamp at all if the year carries a sign (`Instant.ofStored?_text_eq`).
-/

namespace RecordStore

open Text

/-! ## Runs of parts -/

/-- After the first parts of a layout the others are read from where these end. -/
theorem readParts_append {fields found : TimeFields} {first : List TimePart} {text rest : List Char}
    (read : readParts fields first text = some (found, rest)) (second : List TimePart) :
    readParts fields (first ++ second) text = readParts found second rest := by
  induction first generalizing fields text with
  | nil =>
    cases read
    rfl
  | cons part parts ih =>
    cases next : readPart fields part text with
    | none =>
      rw [readParts, next] at read
      cases read
    | some step =>
      rw [readParts_cons next] at read
      rw [List.cons_append, readParts_cons next, ih read]

/-- A date is read as its numbers, whatever its year. -/
theorem readParts_date {date : CivilDate} (dateExists : date.exists? = true) {rest : List Char}
    (ends : NoDigitNext rest) :
    readParts {} TimestampLayout.date (date.text ++ rest) = some ({ date }, rest) := by
  obtain ⟨months, days⟩ := CivilDate.lt_of_exists? dateExists
  obtain ⟨year, month, day⟩ := date
  have shape : CivilDate.text ⟨year, month, day⟩ ++ rest = CivilDate.yearText year ++
      '-' :: (paddedDigits 2 month ++ '-' :: (paddedDigits 2 day ++ rest)) := by
    simp only [CivilDate.text, CivilDate.yearText, List.append_assoc, List.cons_append]
  rw [shape, TimestampLayout.date,
    readParts_cons (readPart_signedYear _ year (noDigitNext_cons rfl)),
    readParts_cons (readPart_oneOf _ rfl _),
    readParts_cons (readPart_upTo _ .month months (noDigitNext_cons rfl)),
    readParts_cons (readPart_oneOf _ rfl _),
    readParts_cons (readPart_upTo _ .day days ends)]
  rfl

/-- A time of day is read as its numbers, the fraction as far as it is written. -/
theorem readParts_clock (fields : TimeFields) {time : ClockTime} (timeExists : time.exists? = true)
    (fraction : SecondFraction) {rest : List Char} (ends : EndsFraction rest) :
    readParts fields TimestampLayout.clock (time.text fraction ++ rest) =
      some ({ fields with time := { time with nanos := fraction.cut time.nanos } }, rest) := by
  obtain ⟨hour, minute, second, nanos⟩ := time
  obtain ⟨⟨hours, minutes, seconds⟩, bound⟩ := (ClockTime.exists?_iff _).1 timeExists
  dsimp only at hours minutes seconds bound
  have shape : ClockTime.text fraction ⟨hour, minute, second, nanos⟩ ++ rest =
      paddedDigits 2 hour ++ ':' :: (paddedDigits 2 minute ++ ':' ::
        (paddedDigits 2 second ++ (fraction.text nanos ++ rest))) := by
    simp only [ClockTime.text, List.append_assoc, List.cons_append]
  rw [shape, TimestampLayout.clock,
    readParts_cons (readPart_upTo _ .hour (by omega) (noDigitNext_cons rfl)),
    readParts_cons (readPart_oneOf _ rfl _),
    readParts_cons (readPart_upTo _ .minute (by omega) (noDigitNext_cons rfl)),
    readParts_cons (readPart_oneOf _ rfl _),
    readParts_cons (readPart_upTo _ .second (by omega)
      (noDigitNext_fraction fraction nanos ends.noDigit))]
  simp only [readParts, readPart, readFraction_text fraction bound ends, Option.map_some,
    Option.bind_eq_bind, Option.bind_some, TimeFields.set]

/-! ## The layouts of a normal form -/

/-- A time of day that follows a date after blanks has no `T` in front. -/
theorem readParts_blanks_clock (fields : TimeFields) (more : List TimePart) (text : List Char) :
    readParts fields ([.blanks] ++ TimestampLayout.clock ++ more) ('T' :: text) = none := by
  have noHour : readPart fields (.upTo .hour 2) ('T' :: text) = none := by
    rw [readPart, trimStart_of_head (by simpa using (by decide : isBlank 'T' = false))]
    rfl
  rw [TimestampLayout.clock, List.append_assoc, List.singleton_append,
    readParts_cons (readPart_blanks _ (by decide) _), List.cons_append, readParts, noHour]
  rfl

/-- Every layout but the interchange format begins with a date. -/
theorem TimestampLayout.stored_eq :
    stored = [strict,
      date ++ ([.blanks] ++ clock ++ [.offset ⟨true, false, false, false, false⟩]),
      date ++ ([.blanks] ++ clock ++ [.offset ⟨true, true, false, false, true⟩]),
      date ++ ([.oneOf ['T']] ++ clock),
      date ++ ([.blanks] ++ clock ++ []),
      date ++ []] := rfl

section Layouts

variable {date : CivilDate} {time : ClockTime}

/-- A layout that begins with a date reads on behind the date. -/
theorem readTimestamp_date_append (dateExists : date.exists? = true) {rest : List Char}
    (ends : NoDigitNext rest) (more : List TimePart) :
    readTimestamp (TimestampLayout.date ++ more) (date.text ++ rest) =
      (readParts { date } more rest).bind fun (fields, rest) =>
        if rest.isEmpty then fields.instant? else none := by
  rw [readTimestamp, readParts_append (readParts_date dateExists ends)]
  rfl

/-- Only the interchange format reads a date and a time of day with `T` between them and more at the
end. -/
theorem findSome?_stored_eq_strict (dateExists : date.exists? = true)
    (timeExists : time.exists? = true) (fraction : SecondFraction) {ending : List Char}
    (ends : EndsFraction ending) (nonempty : ending ≠ []) :
    let text := date.text ++ 'T' :: time.text fraction ++ ending
    TimestampLayout.stored.findSome? (readTimestamp · text) =
      readTimestamp TimestampLayout.strict text := by
  intro text
  have behindDate : text = date.text ++ 'T' :: (time.text fraction ++ ending) := by
    simp only [text, List.append_assoc, List.cons_append]
  have read := readTimestamp_date_append dateExists
    (noDigitNext_cons rfl : NoDigitNext ('T' :: (time.text fraction ++ ending)))
  rw [← behindDate] at read
  -- every other layout begins with a date, and then stops at the `T` or leaves the ending
  have afterBlanks (more : List TimePart) : readTimestamp
      (TimestampLayout.date ++ ([.blanks] ++ TimestampLayout.clock ++ more)) text = none := by
    rw [read, readParts_blanks_clock]
    rfl
  have afterT : readTimestamp
      (TimestampLayout.date ++ ([.oneOf ['T']] ++ TimestampLayout.clock)) text = none := by
    rw [read, List.singleton_append, readParts_cons (readPart_oneOf _ rfl _),
      readParts_clock _ timeExists fraction ends]
    exact if_neg (by rwa [List.isEmpty_iff])
  have alone : readTimestamp (TimestampLayout.date ++ []) text = none := by
    rw [read]
    rfl
  simp only [TimestampLayout.stored_eq, List.findSome?_cons, List.findSome?_nil, afterBlanks, afterT,
    alone]
  cases readTimestamp TimestampLayout.strict text <;> rfl

/-- The interchange format takes no year with a sign. -/
theorem readTimestamp_strict_of_signed (signed : ¬ (0 ≤ date.year ∧ date.year ≤ 9999))
    (more : List Char) : readTimestamp TimestampLayout.strict (date.text ++ more) = none := by
  have noYear (c : Char) (rest : List Char) (noDigit : c.isDigit = false) :
      readTimestamp TimestampLayout.strict (c :: rest) = none := by
    have none : (leadingDigits ((c :: rest).take 4)).length ≠ 4 := by
      rw [List.take_succ_cons, (leadingDigits_of_noDigitNext (noDigitNext_cons noDigit)).1]
      decide
    rw [readTimestamp, TimestampLayout.strict, readParts, readPart, if_neg none]
    rfl
  rw [CivilDate.text]
  simp only [if_neg signed, List.cons_append]
  exact noYear _ _ (by split <;> rfl)

end Layouts

namespace Instant

/-- The text of an instant in UTC is read as the instant, as far as its fraction is written, if its year
has no sign, and is no stored timestamp if it has one. -/
theorem ofStored?_text_eq (instant : Instant) (fraction : SecondFraction) {ending : List Char}
    (ends : EndsUtc ending) :
    ofStored? (String.ofList (instant.text fraction ++ ending)) =
      if instant.HasShortYear then some (instant.cut fraction) else none := by
  split
  · next short => exact ofStored?_text short fraction ends
  · next signed =>
    have dateExists : instant.civil.exists? = true := (CivilDate.toDay_ofDay _).2
    rw [ofStored?, String.toList_ofList, text, trim_timestamp _ _ ends,
      findSome?_stored_eq_strict dateExists instant.clock_exists? fraction ends.toEndsFraction
        ends.ne_nil,
      List.append_assoc, readTimestamp_strict_of_signed signed]

/-- The normal form of an instant is read as the instant cut to milliseconds if its year has no sign,
and is no stored timestamp if it has one. -/
theorem ofStored?_toIsoText_eq (instant : Instant) :
    ofStored? instant.toIsoText =
      if instant.HasShortYear then some (instant.cut .millis) else none :=
  instant.ofStored?_text_eq .millis endsUtc_zulu

/-- Cutting to milliseconds does not change the normal form. -/
theorem toIsoText_cut_millis (instant : Instant) :
    (instant.cut .millis).toIsoText = instant.toIsoText := by
  have date : (instant.cut .millis).civil = instant.civil := rfl
  rw [toIsoText, toIsoText, text, text, clock_cut, date, ClockTime.text_cut_millis]

end Instant

end RecordStore
