import RecordStore.Proofs.Time.Text

/-!
# Reading back the timestamps of search documents

The layout of search documents takes years of any number of digits after a sign. So the full text of
every instant is read as that instant, whatever its year (`Instant.ofDocument?_toFullText`).
-/

namespace RecordStore

open Text

/-! ## Parts -/

/-- A run of at most as many digits as may be read is read whole. -/
theorem readDigits_append {width : Nat} {run rest : List Char} (nonempty : run ≠ [])
    (digits : ∀ c ∈ run, c.isDigit = true) (fits : run.length ≤ width) (ends : NoDigitNext rest) :
    readDigits width (run ++ rest) = some (ofDigits run, rest) := by
  simp only [readDigits, leadingDigits_append digits ends, List.take_of_length_le fits,
    List.isEmpty_iff, nonempty, if_false, List.drop_left]

/-- No blank comes before a number. -/
theorem trimStart_paddedDigits (width n : Nat) (rest : List Char) :
    trimStart (paddedDigits width n ++ rest) = paddedDigits width n ++ rest := by
  obtain ⟨c, run, cons, digit⟩ := exists_paddedDigits_eq_cons width n
  exact trimStart_of_head (by simpa [cons] using isBlank_of_isDigit digit)

/-- A number of two digits is read back. -/
theorem readPart_upTo (fields : TimeFields) (field : TimeField) {n : Nat} (small : n < 100)
    {rest : List Char} (ends : NoDigitNext rest) :
    readPart fields (.upTo field 2) (paddedDigits 2 n ++ rest) = some (fields.set field n, rest) := by
  have length : (paddedDigits 2 n).length = 2 := length_paddedDigits (by decide) small
  rw [readPart, trimStart_paddedDigits, readDigits_append (paddedDigits_ne_nil 2 n)
    (fun _ => isDigit_of_mem_paddedDigits) (Nat.le_of_eq length) ends, ofDigits_paddedDigits]
  rfl

theorem readPart_blanks (fields : TimeFields) {c : Char} (notBlank : isBlank c = false)
    (rest : List Char) : readPart fields .blanks (c :: rest) = some (fields, c :: rest) := by
  rw [readPart, trimStart_of_head (by simpa using notBlank)]

/-! ## Years -/

/-- The text of a year. -/
def CivilDate.yearText (year : Int) : List Char :=
  if 0 ≤ year ∧ year ≤ 9999 then paddedDigits 4 year.toNat
  else (if year < 0 then '-' else '+') :: paddedDigits 4 year.natAbs

theorem readSignedYear_of_isDigit {c : Char} (digit : c.isDigit = true) (rest : List Char) :
    readSignedYear (c :: rest) =
      (readDigits 4 (c :: rest)).map fun (year, rest) => ((year : Int), rest) := by
  rw [readSignedYear]
  · rintro _ ⟨⟩
    cases digit
  · rintro _ ⟨⟩
    cases digit

/-- A year is read back, whether it has a sign or not. -/
theorem readSignedYear_yearText (year : Int) {rest : List Char} (ends : NoDigitNext rest) :
    readSignedYear (CivilDate.yearText year ++ rest) = some (year, rest) := by
  have read (n width : Nat) (fits : (paddedDigits 4 n).length ≤ width) :
      readDigits width (paddedDigits 4 n ++ rest) = some (n, rest) := by
    rw [readDigits_append (paddedDigits_ne_nil 4 n) (fun _ => isDigit_of_mem_paddedDigits) fits ends,
      ofDigits_paddedDigits]
  have whole (n : Nat) : readDigits (paddedDigits 4 n ++ rest).length (paddedDigits 4 n ++ rest) =
      some (n, rest) :=
    read n _ (by simp)
  rw [CivilDate.yearText]
  split
  · next short =>
    have length : (paddedDigits 4 year.toNat).length = 4 :=
      length_paddedDigits (by decide) (show year.toNat < 10000 by omega)
    obtain ⟨c, run, cons, digit⟩ := exists_paddedDigits_eq_cons 4 year.toNat
    have fourDigits := read year.toNat 4 (Nat.le_of_eq length)
    rw [cons, List.cons_append] at fourDigits ⊢
    rw [readSignedYear_of_isDigit digit, fourDigits, Option.map_some]
    exact congrArg (fun year => some (year, rest)) (Int.toNat_of_nonneg short.1)
  · next long =>
    split
    · next negative =>
      rw [List.cons_append, readSignedYear, whole, Option.map_some]
      exact congrArg (fun year => some (year, rest)) (show -(year.natAbs : Int) = year by omega)
    · next positive =>
      rw [List.cons_append, readSignedYear, whole, Option.map_some]
      exact congrArg (fun year => some (year, rest)) (show (year.natAbs : Int) = year by omega)

/-- No blank comes before a year. -/
theorem trimStart_yearText (year : Int) (rest : List Char) :
    trimStart (CivilDate.yearText year ++ rest) = CivilDate.yearText year ++ rest := by
  rw [CivilDate.yearText]
  split
  · exact trimStart_paddedDigits 4 _ rest
  · refine trimStart_of_head ?_
    split <;> simp <;> decide

theorem readPart_signedYear (fields : TimeFields) (year : Int) {rest : List Char}
    (ends : NoDigitNext rest) :
    readPart fields .signedYear (CivilDate.yearText year ++ rest) =
      some ({ fields with date.year := year }, rest) := by
  rw [readPart, trimStart_yearText, readSignedYear_yearText year ends]
  rfl

/-! ## The layout of search documents -/

theorem noDigitNext_fraction (fraction : SecondFraction) (nanos : Nat) {rest : List Char}
    (ends : NoDigitNext rest) : NoDigitNext (fraction.text nanos ++ rest) := by
  cases fraction with
  | millis => exact noDigitNext_cons rfl
  | shortest =>
    rw [SecondFraction.text]
    split
    · exact ends
    · repeat' split
      all_goals exact noDigitNext_cons rfl

/-- A date and time of day are read as their numbers. -/
theorem readParts_document {date : CivilDate} (dateExists : date.exists? = true) {time : ClockTime}
    (timeExists : time.exists? = true) :
    readParts {} TimestampLayout.document (date.text ++ 'T' :: time.text .shortest ++ ['Z']) =
      some (⟨date, time, 0⟩, []) := by
  obtain ⟨months, days⟩ := CivilDate.lt_of_exists? dateExists
  obtain ⟨year, month, day⟩ := date
  obtain ⟨hour, minute, second, nanos⟩ := time
  obtain ⟨⟨hours, minutes, seconds⟩, bound⟩ := (ClockTime.exists?_iff _).1 timeExists
  dsimp only at months days hours minutes seconds bound
  have shape : CivilDate.text ⟨year, month, day⟩ ++
        'T' :: ClockTime.text .shortest ⟨hour, minute, second, nanos⟩ ++ ['Z'] =
      CivilDate.yearText year ++ '-' :: (paddedDigits 2 month ++ '-' :: (paddedDigits 2 day ++
        'T' :: (paddedDigits 2 hour ++ ':' :: (paddedDigits 2 minute ++ ':' ::
          (paddedDigits 2 second ++ (SecondFraction.shortest.text nanos ++ ['Z'])))))) := by
    simp only [CivilDate.text, CivilDate.yearText, ClockTime.text, List.append_assoc,
      List.cons_append]
  have afterSecond := noDigitNext_fraction .shortest nanos endsUtc_zulu.noDigit
  rw [shape, TimestampLayout.document,
    readParts_cons (readPart_signedYear _ year (noDigitNext_cons rfl)),
    readParts_cons (readPart_blanks _ rfl _), readParts_cons (readPart_oneOf _ rfl _),
    readParts_cons (readPart_upTo _ .month months (noDigitNext_cons rfl)),
    readParts_cons (readPart_blanks _ rfl _), readParts_cons (readPart_oneOf _ rfl _),
    readParts_cons (readPart_upTo _ .day days (noDigitNext_cons rfl)),
    readParts_cons (readPart_oneOf _ rfl _),
    readParts_cons (readPart_upTo _ .hour (by omega) (noDigitNext_cons rfl)),
    readParts_cons (readPart_blanks _ rfl _), readParts_cons (readPart_oneOf _ rfl _),
    readParts_cons (readPart_upTo _ .minute (by omega) (noDigitNext_cons rfl)),
    readParts_cons (readPart_blanks _ rfl _), readParts_cons (readPart_oneOf _ rfl _),
    readParts_cons (readPart_upTo _ .second (by omega) afterSecond)]
  simp only [readParts, readPart, readFraction_text .shortest bound endsUtc_zulu.toEndsFraction,
    SecondFraction.cut, Option.map_some, Option.bind_eq_bind, Option.bind_some, TimeFields.set]
  rfl

namespace Instant

/-- The full text of an instant is read as the instant. -/
theorem ofDocument?_toFullText (instant : Instant) : ofDocument? instant.toFullText = some instant := by
  obtain ⟨day, dateExists⟩ : instant.civil.toDay = instant.second / secondsPerDay ∧
      instant.civil.exists? = true := CivilDate.toDay_ofDay _
  have range : firstDay ≤ instant.civil.toDay ∧ instant.civil.toDay ≤ lastDay := by
    have inRange := instant.inRange
    rw [day]
    simp only [firstDay, lastDay, secondsPerDay] at inRange ⊢
    omega
  obtain ⟨found, named, date, time⟩ := exists_ofLocal? dateExists range instant.clock_exists?
  obtain rfl : found = instant := eq_of_civil_of_clock date time
  rw [ofDocument?, toFullText, String.toList_ofList, readTimestamp, text,
    readParts_document dateExists found.clock_exists?]
  exact named

end Instant

end RecordStore
