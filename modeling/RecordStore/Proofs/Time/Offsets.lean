import RecordStore.Proofs.Time.Layouts

/-!
# Texts that tell an instant

An instant is told by its date and time of day at any offset of whole minutes from UTC, with the offset
behind them, by its date and time of day in UTC without an offset, and a midnight by its date alone.
Each of these texts is read as that instant, by the first layout that takes it
(`Instant.ofStored?_of_isToldBy`), also with blanks around it.
-/

namespace RecordStore

open Text

/-! ## Local time -/

namespace Instant

/-- The date where the time is so many minutes ahead of UTC. -/
def civilAt (instant : Instant) (minutes : Int) : CivilDate :=
  .ofDay ((instant.second + minutes * 60) / secondsPerDay)

/-- The time of day where the time is so many minutes ahead of UTC. The seconds are those of UTC. -/
def clockAt (instant : Instant) (minutes : Int) : ClockTime :=
  let ofDay := ((instant.second + minutes * 60) % secondsPerDay).toNat
  { instant.clock with hour := ofDay / 3600, minute := ofDay / 60 % 60 }

variable (instant : Instant) (minutes : Int)

theorem civilAt_zero : instant.civilAt 0 = instant.civil := by
  rw [civilAt, Int.zero_mul, Int.add_zero, civil]

theorem clockAt_zero : instant.clockAt 0 = instant.clock := by
  simp only [clockAt, clock, Int.zero_mul, Int.add_zero]

theorem clockAt_exists? : (instant.clockAt minutes).exists? = true := by
  have utc := (ClockTime.exists?_iff _).1 instant.clock_exists?
  simp only [clockAt, ClockTime.exists?_iff, secondsPerDay]
  omega

/-- Only the time of day of a leap second has the second 60. -/
theorem second_clock_eq_iff : instant.clock.second = 60 ↔ 1000000000 ≤ instant.nanos := by
  have leap := instant.leapAtMinuteEnd
  simp only [clock, secondsPerDay]
  split <;> omega

theorem secondOfDay_clockAt :
    (secondOfDay (instant.clockAt minutes) : Int) =
      (instant.second + minutes * 60) % secondsPerDay := by
  have leap := instant.leapAtMinuteEnd
  have sameSecond : (instant.clockAt minutes).second = instant.clock.second := rfl
  have hour : (instant.clockAt minutes).hour =
      ((instant.second + minutes * 60) % secondsPerDay).toNat / 3600 := rfl
  have minute : (instant.clockAt minutes).minute =
      ((instant.second + minutes * 60) % secondsPerDay).toNat / 60 % 60 := rfl
  have ofMinute : ((if (instant.clockAt minutes).second = 60 then 59
      else (instant.clockAt minutes).second : Nat) : Int) = instant.second % 60 := by
    simp only [sameSecond, instant.second_clock_eq_iff]
    split
    · omega
    · next isNoLeap =>
      simp only [clock, secondsPerDay, isNoLeap, if_false]
      omega
  rw [secondOfDay, hour, minute]
  simp only [secondsPerDay]
  omega

theorem nanosOfClock_clockAt : nanosOfClock (instant.clockAt minutes) = instant.nanos := by
  have sameSecond : (instant.clockAt minutes).second = instant.clock.second := rfl
  simp only [nanosOfClock, sameSecond, instant.second_clock_eq_iff]
  simp only [clockAt, clock]
  split <;> omega

theorem ofSeconds?_self : ofSeconds? instant.second instant.nanos = some instant :=
  dif_pos ⟨instant.inRange, instant.nanosBound, instant.leapAtMinuteEnd⟩

/-- Date and time of day at an offset name the instant. -/
theorem ofLocal?_at (years : 0 ≤ (instant.civilAt minutes).year ∧ (instant.civilAt minutes).year ≤ 9999) :
    ofLocal? (instant.civilAt minutes) (instant.clockAt minutes) (minutes * 60) = some instant := by
  have date := CivilDate.toDay_ofDay ((instant.second + minutes * 60) / secondsPerDay)
  have range := CivilDate.toDay_range (CivilDate.short_of_exists? date.2 years)
  have second : (instant.civilAt minutes).toDay * secondsPerDay +
      secondOfDay (instant.clockAt minutes) - minutes * 60 = instant.second := by
    rw [secondOfDay_clockAt, civilAt, date.1, secondsPerDay]
    omega
  rw [civilAt] at second ⊢
  rw [ofLocal?_eq date.2 range (instant.clockAt_exists? minutes), second, nanosOfClock_clockAt,
    ofSeconds?_self]

theorem clockAt_cut (fraction : SecondFraction) :
    (instant.cut fraction).clockAt minutes = { instant.clockAt minutes with
      nanos := fraction.cut (instant.clockAt minutes).nanos } := by
  rw [clockAt, clock_cut]
  rfl

/-- The normal form does not show what is smaller than a millisecond, whether it is cut or not. -/
theorem toIsoText_cut (fraction : SecondFraction) :
    (instant.cut fraction).toIsoText = instant.toIsoText := by
  cases fraction with
  | millis => exact instant.toIsoText_cut_millis
  | shortest => rfl

end Instant

/-! ## Offsets -/

/-- An offset of so many minutes: a sign, and hours and minutes of two digits each. -/
def offsetText (minutes : Int) : List Char :=
  (if minutes < 0 then '-' else '+') :: paddedDigits 2 (minutes.natAbs / 60) ++
    ':' :: paddedDigits 2 (minutes.natAbs % 60)

/-- The texts of an offset of so many minutes, which stays below one day. -/
inductive IsOffset : Int → List Char → Prop where
  | zulu : IsOffset 0 ['Z']
  | numeric {minutes : Int} (below : -1440 < minutes ∧ minutes < 1440) :
    IsOffset minutes (offsetText minutes)

theorem readTwoDigits_paddedDigits {n : Nat} (small : n < 100) (rest : List Char) :
    readTwoDigits (paddedDigits 2 n ++ rest) = some (n, rest) := by
  have length : (paddedDigits 2 n).length = 2 := length_paddedDigits (by decide) small
  have value := ofDigits_paddedDigits 2 n
  have digit : ∀ c ∈ paddedDigits 2 n, c.isDigit = true := fun _ => isDigit_of_mem_paddedDigits
  obtain ⟨a, b, two⟩ : ∃ a b, paddedDigits 2 n = [a, b] := by
    match paddedDigits 2 n, length with
    | [a, b], _ => exact ⟨a, b, rfl⟩
  rw [two] at value digit ⊢
  simp only [List.cons_append, List.nil_append, readTwoDigits, digit a List.mem_cons_self,
    digit b (List.mem_cons_of_mem _ List.mem_cons_self), Bool.and_self, if_true, value]

/-- A sign with hours and minutes of two digits each is read as seconds. -/
theorem readNumericOffset_text (negative : Bool) {hours minutes : Nat}
    (below : hours ≤ 23 ∧ minutes ≤ 59) :
    readNumericOffset ⟨false, true, false, true, false⟩ ((if negative then '-' else '+') ::
        (paddedDigits 2 hours ++ ':' :: paddedDigits 2 minutes)) =
      some (if negative then -(hours * 3600 + minutes * 60 : Int) else hours * 3600 + minutes * 60,
        []) := by
  have sign (rest : List Char) :
      readSign ((if negative then '-' else '+') :: rest) = some (negative, rest) := by
    cases negative <;> rfl
  have beforeColon := readTwoDigits_paddedDigits (show hours < 100 by omega)
    (':' :: paddedDigits 2 minutes)
  have afterColon := readTwoDigits_paddedDigits (show minutes < 100 by omega) []
  have within : (decide (23 < hours) || decide (59 < minutes)) = false := by
    simp only [Bool.or_eq_false_iff, decide_eq_false_iff_not]
    omega
  rw [List.append_nil] at afterColon
  simp only [readNumericOffset, sign, beforeColon, readSeparator, afterColon, within, if_true,
    if_false, Bool.false_and, Bool.false_eq_true, Option.bind_eq_bind, Option.bind_some,
    Option.pure_def]

namespace IsOffset

variable {minutes : Int} {ending : List Char}

theorem endsFraction (offset : IsOffset minutes ending) : EndsFraction ending := by
  cases offset with
  | zulu => exact endsUtc_zulu.toEndsFraction
  | numeric =>
    refine ⟨noDigitNext_cons (by split <;> rfl), ?_⟩
    rw [offsetText, List.cons_append, List.head?_cons]
    split <;> decide

/-- An offset is read as its seconds. -/
theorem read (offset : IsOffset minutes ending) :
    readOffset ⟨false, true, false, true, false⟩ ending = some (minutes * 60, []) := by
  cases offset with
  | zulu => rfl
  | numeric below =>
    have read := readNumericOffset_text (decide (minutes < 0))
      (show minutes.natAbs / 60 ≤ 23 ∧ minutes.natAbs % 60 ≤ 59 by omega)
    simp only [decide_eq_true_eq] at read
    have seconds : (if minutes < 0
        then -((minutes.natAbs / 60 : Nat) * 3600 + (minutes.natAbs % 60 : Nat) * 60 : Int)
        else (minutes.natAbs / 60 : Nat) * 3600 + (minutes.natAbs % 60 : Nat) * 60) =
        minutes * 60 := by
      split <;> omega
    have noZulu : ((if minutes < 0 then '-' else '+') == 'Z' ||
        (if minutes < 0 then '-' else '+') == 'z') = false := by
      split <;> rfl
    rw [seconds] at read
    rw [offsetText, List.cons_append, readOffset]
    simp only [noZulu, Bool.and_false, Bool.false_and, Bool.false_eq_true, if_false, read]

theorem endsSolid (offset : IsOffset minutes ending) : EndsSolid ending := by
  cases offset with
  | zulu => exact endsUtc_zulu.noBlank
  | numeric =>
    rw [offsetText, List.append_cons]
    exact (endsSolid_paddedDigits 2 _).append _

end IsOffset

/-! ## Layouts that take a text -/

section Layouts

variable {date : CivilDate} {time : ClockTime} {separator : Char} {instant : Instant}

theorem endsFraction_nil : EndsFraction [] := ⟨noDigitNext_nil, nofun⟩

/-- A time of day is read to its end. -/
theorem readParts_clock_nil (fields : TimeFields) (timeExists : time.exists? = true)
    (fraction : SecondFraction) :
    readParts fields TimestampLayout.clock (time.text fraction) =
      some ({ fields with time := { time with nanos := fraction.cut time.nanos } }, []) := by
  simpa only [List.append_nil] using readParts_clock fields timeExists fraction endsFraction_nil

/-- A time of day is read after a blank. -/
theorem readParts_blank_clock (fields : TimeFields) (timeExists : time.exists? = true)
    (fraction : SecondFraction) (more : List TimePart) :
    readParts fields ([.blanks] ++ TimestampLayout.clock ++ more) (' ' :: time.text fraction) =
      readParts { fields with time := { time with nanos := fraction.cut time.nanos } } more [] := by
  have noBlank : trimStart (' ' :: time.text fraction) = time.text fraction := by
    rw [trimStart, List.dropWhile_cons, if_pos (by decide), ← trimStart, ClockTime.text,
      List.append_assoc, List.append_assoc, trimStart_paddedDigits]
  have blank : readPart fields .blanks (' ' :: time.text fraction) =
      some (fields, time.text fraction) := by
    rw [readPart, noBlank]
  rw [List.append_assoc, List.singleton_append, readParts_cons blank,
    readParts_append (readParts_clock_nil fields timeExists fraction)]

theorem contains_of_separates (separates : separator = 'T' ∨ separator = ' ') :
    ['T', 't', ' '].contains separator = true := by
  rcases separates with rfl | rfl <;> rfl

/-- A date and a time of day with an offset behind them have the interchange format. -/
theorem findSome?_stored_of_offset (short : date.Short) (timeExists : time.exists? = true)
    (separates : separator = 'T' ∨ separator = ' ') (fraction : SecondFraction) {minutes : Int}
    {ending : List Char} (offset : IsOffset minutes ending)
    (named : TimeFields.instant?
      ⟨date, { time with nanos := fraction.cut time.nanos }, minutes * 60⟩ = some instant) :
    TimestampLayout.stored.findSome?
      (readTimestamp · (date.text ++ separator :: time.text fraction ++ ending)) = some instant := by
  have strict : readTimestamp TimestampLayout.strict
      (date.text ++ separator :: time.text fraction ++ ending) = some instant := by
    rw [readTimestamp, readParts_strict short timeExists fraction (contains_of_separates separates)
      offset.endsFraction, offset.read]
    exact named
  rw [TimestampLayout.stored, List.findSome?_cons, strict]

/-- The interchange format takes no timestamp without an offset. -/
theorem readTimestamp_strict_of_utc (short : date.Short) (timeExists : time.exists? = true)
    (separates : separator = 'T' ∨ separator = ' ') (fraction : SecondFraction) :
    readTimestamp TimestampLayout.strict (date.text ++ separator :: time.text fraction) = none := by
  have read := readParts_strict short timeExists fraction (contains_of_separates separates)
    endsFraction_nil
  rw [List.append_nil] at read
  rw [readTimestamp, read]
  rfl

section Utc

variable (dateExists : date.exists? = true) (short : date.Short) (timeExists : time.exists? = true)
  (fraction : SecondFraction)
  (named : TimeFields.instant? ⟨date, { time with nanos := fraction.cut time.nanos }, 0⟩ =
    some instant)

include dateExists short timeExists named

/-- The first layout that takes a `T` and no offset is the one with a `T`. -/
theorem findSome?_stored_after_T :
    TimestampLayout.stored.findSome? (readTimestamp · (date.text ++ 'T' :: time.text fraction)) =
      some instant := by
  have noOffset := readTimestamp_strict_of_utc short timeExists (.inl rfl) fraction
  have read := readTimestamp_date_append dateExists
    (noDigitNext_cons rfl : NoDigitNext ('T' :: time.text fraction))
  have afterBlanks (more : List TimePart) : readTimestamp
      (TimestampLayout.date ++ ([.blanks] ++ TimestampLayout.clock ++ more))
        (date.text ++ 'T' :: time.text fraction) = none := by
    rw [read, readParts_blanks_clock]
    rfl
  have afterT : readTimestamp (TimestampLayout.date ++ ([.oneOf ['T']] ++ TimestampLayout.clock))
      (date.text ++ 'T' :: time.text fraction) = some instant := by
    rw [read, List.singleton_append, readParts_cons (readPart_oneOf _ rfl _),
      readParts_clock_nil _ timeExists]
    exact named
  simp only [TimestampLayout.stored_eq, List.findSome?_cons, noOffset, afterBlanks, afterT]

/-- Of the layouts that take a blank only the one without an offset is read to its end. -/
theorem findSome?_stored_after_blank :
    TimestampLayout.stored.findSome? (readTimestamp · (date.text ++ ' ' :: time.text fraction)) =
      some instant := by
  have noOffset := readTimestamp_strict_of_utc short timeExists (.inr rfl) fraction
  have read := readTimestamp_date_append dateExists
    (noDigitNext_cons rfl : NoDigitNext (' ' :: time.text fraction))
  have noT : readTimestamp (TimestampLayout.date ++ ([.oneOf ['T']] ++ TimestampLayout.clock))
      (date.text ++ ' ' :: time.text fraction) = none := by
    rw [read]
    rfl
  have withColon : readTimestamp (TimestampLayout.date ++ ([.blanks] ++ TimestampLayout.clock ++
      [.offset ⟨true, false, false, false, false⟩])) (date.text ++ ' ' :: time.text fraction) =
        none := by
    rw [read, readParts_blank_clock _ timeExists]
    rfl
  have withZulu : readTimestamp (TimestampLayout.date ++ ([.blanks] ++ TimestampLayout.clock ++
      [.offset ⟨true, true, false, false, true⟩])) (date.text ++ ' ' :: time.text fraction) =
        none := by
    rw [read, readParts_blank_clock _ timeExists]
    rfl
  have withoutOffset : readTimestamp (TimestampLayout.date ++ ([.blanks] ++ TimestampLayout.clock ++
      [])) (date.text ++ ' ' :: time.text fraction) = some instant := by
    rw [read, readParts_blank_clock _ timeExists]
    exact named
  simp only [TimestampLayout.stored_eq, List.findSome?_cons, noOffset, withColon, withZulu, noT,
    withoutOffset]

end Utc

/-- A date alone is read by the last layout. -/
theorem findSome?_stored_of_date (dateExists : date.exists? = true) (short : date.Short)
    (named : TimeFields.instant? { date } = some instant) :
    TimestampLayout.stored.findSome? (readTimestamp · date.text) = some instant := by
  have read := readTimestamp_date_append dateExists noDigitNext_nil
  simp only [List.append_nil] at read
  have noTime : readTimestamp TimestampLayout.strict date.text = none := by
    have strict := readParts_strict_date short []
    rw [List.append_nil] at strict
    rw [readTimestamp, strict]
    rfl
  have afterBlanks (more : List TimePart) : readTimestamp
      (TimestampLayout.date ++ ([.blanks] ++ TimestampLayout.clock ++ more)) date.text = none := by
    rw [read]
    rfl
  have afterT : readTimestamp (TimestampLayout.date ++ ([.oneOf ['T']] ++ TimestampLayout.clock))
      date.text = none := by
    rw [read]
    rfl
  have alone : readTimestamp (TimestampLayout.date ++ []) date.text = some instant :=
    (read []).trans named
  simp only [TimestampLayout.stored_eq, List.findSome?_cons, noTime, afterBlanks, afterT, alone]

end Layouts

/-! ## Texts of an instant -/

theorem CivilDate.endsSolid_text (date : CivilDate) : EndsSolid date.text :=
  ((endsSolid_paddedDigits 2 date.day).append ['-']).append _

theorem ClockTime.endsSolid_text (time : ClockTime) (fraction : SecondFraction) :
    EndsSolid (time.text fraction) := by
  have ends : EndsSolid (paddedDigits 2 time.second ++ fraction.text time.nanos) := by
    cases fraction with
    | millis => exact ((endsSolid_paddedDigits 3 _).append ['.']).append _
    | shortest =>
      rw [SecondFraction.text]
      split
      · rw [List.append_nil]
        exact endsSolid_paddedDigits 2 _
      · split
        · exact ((endsSolid_paddedDigits 3 _).append ['.']).append _
        split
        · exact ((endsSolid_paddedDigits 6 _).append ['.']).append _
        · exact ((endsSolid_paddedDigits 9 _).append ['.']).append _
  rw [text, List.append_assoc, List.cons_append]
  exact (ends.append [':']).append _

namespace Instant

/-- The texts that tell an instant, as far as their fraction is written: date and time of day at an
offset with a year of four digits there, or in UTC without an offset, or only the date at midnight. -/
inductive WrittenAs (instant : Instant) : List Char → Prop where
  | offset {minutes : Int} {separator : Char} {ending : List Char}
    (years : 0 ≤ (instant.civilAt minutes).year ∧ (instant.civilAt minutes).year ≤ 9999)
    (separates : separator = 'T' ∨ separator = ' ') (fraction : SecondFraction)
    (ends : IsOffset minutes ending) :
    WrittenAs instant ((instant.civilAt minutes).text ++
      separator :: (instant.clockAt minutes).text fraction ++ ending)
  | utc {separator : Char} (separates : separator = 'T' ∨ separator = ' ')
    (fraction : SecondFraction) :
    WrittenAs instant (instant.civil.text ++ separator :: instant.clock.text fraction)
  | date (midnight : instant.clock = ⟨0, 0, 0, 0⟩) : WrittenAs instant instant.civil.text

/-- The text tells the instant, with any blanks around. -/
def IsToldBy (instant : Instant) (text : String) : Prop :=
  ∃ before written after, String.ofList (before ++ written ++ after) = text ∧
    instant.WrittenAs written ∧ (∀ c ∈ before, isBlank c = true) ∧ ∀ c ∈ after, isBlank c = true

variable {instant : Instant}

/-- No blanks stand around the texts of an instant. -/
theorem WrittenAs.trim {text : List Char} (written : instant.WrittenAs text) :
    Text.trim text = text := by
  cases written with
  | offset years separates fraction ends =>
    rw [List.append_assoc]
    exact trim_date _ ((ends.endsSolid.append _).append _)
  | utc separates fraction =>
    exact trim_date _ (((instant.clock.endsSolid_text fraction).append [_]).append _)
  | date midnight =>
    have ends : EndsSolid (instant.civil.text ++ []) := by
      rw [List.append_nil]
      exact instant.civil.endsSolid_text
    simpa only [List.append_nil] using trim_date instant.civil ends

/-- A text that tells an instant is read as the instant, as far as its fraction is written. -/
theorem ofStored?_of_isToldBy (short : instant.HasShortYear) {text : String}
    (told : instant.IsToldBy text) :
    ∃ fraction, ofStored? text = some (instant.cut fraction) := by
  obtain ⟨before, written, after, rfl, writtenAs, blankBefore, blankAfter⟩ := told
  have at_ (fraction : SecondFraction) {minutes : Int}
      (years : 0 ≤ (instant.civilAt minutes).year ∧ (instant.civilAt minutes).year ≤ 9999) :
      TimeFields.instant? ⟨instant.civilAt minutes, { instant.clockAt minutes with
        nanos := fraction.cut (instant.clockAt minutes).nanos }, minutes * 60⟩ =
          some (instant.cut fraction) := by
    rw [← clockAt_cut]
    exact ofLocal?_at (instant.cut fraction) minutes years
  have inUtc (fraction : SecondFraction) : TimeFields.instant? ⟨instant.civil,
      { instant.clock with nanos := fraction.cut instant.clock.nanos }, 0⟩ =
        some (instant.cut fraction) := by
    have utc := ofLocal?_at (instant.cut fraction) 0
    rw [civilAt_zero, clockAt_zero, clock_cut] at utc
    exact utc short
  have dateExists : instant.civil.exists? = true := (CivilDate.toDay_ofDay _).2
  rw [ofStored?, String.toList_ofList, trim_append_blanks blankBefore blankAfter, writtenAs.trim]
  cases writtenAs with
  | @offset minutes separator ending years separates fraction ends =>
    have localExists : (instant.civilAt minutes).exists? = true := (CivilDate.toDay_ofDay _).2
    exact ⟨fraction, findSome?_stored_of_offset (CivilDate.short_of_exists? localExists years)
      (instant.clockAt_exists? minutes) separates fraction ends (at_ fraction years)⟩
  | utc separates fraction =>
    refine ⟨fraction, ?_⟩
    have shortDate := CivilDate.short_of_exists? dateExists short
    rcases separates with rfl | rfl
    · exact findSome?_stored_after_T dateExists shortDate instant.clock_exists? fraction
        (inUtc fraction)
    · exact findSome?_stored_after_blank dateExists shortDate instant.clock_exists? fraction
        (inUtc fraction)
  | date midnight =>
    have named := inUtc .shortest
    rw [midnight] at named
    exact ⟨.shortest, findSome?_stored_of_date dateExists
      (CivilDate.short_of_exists? dateExists short) named⟩

end Instant

end RecordStore
