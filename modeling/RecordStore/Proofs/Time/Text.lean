import RecordStore.Proofs.Text.Blank
import RecordStore.Proofs.Time.Calendar
import RecordStore.Time.Reader
import RecordStore.Time.Text

/-!
# Reading back timestamps

The text of an instant of the years 0 to 9999 is read as that instant, cut to the digits that were
written (`Instant.ofStored?_text`). Where a text is the normal form of some date and time, the instant
it is read as has this normal form again (`Instant.exists_ofStored?_toIsoText`).
-/

namespace RecordStore

open Text

/-! ## Numbers of a timestamp -/

theorem readParts_cons {fields found : TimeFields} {part : TimePart} {parts : List TimePart}
    {text rest : List Char} (read : readPart fields part text = some (found, rest)) :
    readParts fields (part :: parts) text = readParts found parts rest := by
  rw [readParts, read]
  rfl

/-- A number of fixed width is read back. -/
theorem readPart_exact (fields : TimeFields) (field : TimeField) {width n : Nat}
    (positive : 0 < width) (small : n < Nat.pow 10 width) (rest : List Char) :
    readPart fields (.exact field width) (paddedDigits width n ++ rest) =
      some (fields.set field n, rest) := by
  have length := length_paddedDigits positive small
  have taken : (paddedDigits width n ++ rest).take width = paddedDigits width n :=
    List.take_left' length
  have run : leadingDigits (paddedDigits width n) = paddedDigits width n := by
    simpa only [List.append_nil] using
      leadingDigits_append (fun _ => isDigit_of_mem_paddedDigits) noDigitNext_nil
  rw [readPart, taken, run, if_pos length, ofDigits_paddedDigits, List.drop_left' length]

theorem readPart_oneOf (fields : TimeFields) {characters : List Char} {c : Char}
    (listed : characters.contains c = true) (rest : List Char) :
    readPart fields (.oneOf characters) (c :: rest) = some (fields, rest) := by
  rw [readPart, if_pos listed]

/-! ## Fractions -/

/-- The nanoseconds that are written. -/
def SecondFraction.cut : SecondFraction → Nat → Nat
  | millis, nanos => nanos / 1000000 * 1000000
  | shortest, nanos => nanos

/-- What may follow a fraction without being taken for more of it. -/
structure EndsFraction (rest : List Char) : Prop where
  noDigit : NoDigitNext rest
  noPoint : rest.head? ≠ some '.'

theorem readFraction_paddedDigits (width : Nat) {n : Nat} (positive : 0 < width) (atMost : width ≤ 9)
    (small : n < Nat.pow 10 width) {rest : List Char} (ends : EndsFraction rest) :
    readFraction ('.' :: paddedDigits width n ++ rest) =
      some (n * Nat.pow 10 (9 - width), rest) := by
  have length := length_paddedDigits positive small
  have digits : ∀ c ∈ paddedDigits width n, c.isDigit = true :=
    fun _ => isDigit_of_mem_paddedDigits
  have run := leadingDigits_append digits ends.noDigit
  have after := afterDigits_append digits ends.noDigit
  have whole : (paddedDigits width n).take 9 = paddedDigits width n :=
    List.take_of_length_le (by omega)
  have nonempty : (paddedDigits width n).isEmpty = false := by
    rw [List.isEmpty_eq_false_iff, ← List.length_pos_iff]
    omega
  simp only [List.cons_append, readFraction, run, after, whole, nonempty, ofDigits_paddedDigits,
    length, Bool.false_eq_true, if_false]

/-- A fraction is read as the nanoseconds that are written. -/
theorem readFraction_text (fraction : SecondFraction) {nanos : Nat} (bound : nanos < 1000000000)
    {rest : List Char} (ends : EndsFraction rest) :
    readFraction (fraction.text nanos ++ rest) = some (fraction.cut nanos, rest) := by
  cases fraction with
  | millis =>
    exact readFraction_paddedDigits 3 (by decide) (by decide)
      (show nanos / 1000000 < 1000 by omega) ends
  | shortest =>
    rw [SecondFraction.text, SecondFraction.cut]
    split
    · next zero =>
      rw [zero, List.nil_append, readFraction]
      intro after same
      exact ends.noPoint (by rw [same]; rfl)
    split
    · next whole =>
      rw [readFraction_paddedDigits 3 (by decide) (by decide)
        (show nanos / 1000000 < 1000 by omega) ends]
      congr 2
      exact Nat.div_mul_cancel (Nat.dvd_of_mod_eq_zero whole)
    split
    · next whole =>
      rw [readFraction_paddedDigits 6 (by decide) (by decide)
        (show nanos / 1000 < 1000000 by omega) ends]
      congr 2
      exact Nat.div_mul_cancel (Nat.dvd_of_mod_eq_zero whole)
    · rw [readFraction_paddedDigits 9 (by decide) (by decide) bound ends]
      congr 2
      exact Nat.mul_one _

/-! ## The interchange format -/

/-- An offset of zero at the end of a timestamp. -/
structure EndsUtc (ending : List Char) : Prop extends EndsFraction ending where
  offset : readOffset ⟨false, true, false, true, false⟩ ending = some (0, [])
  noBlank : EndsSolid ending

theorem endsUtc_zulu : EndsUtc ['Z'] :=
  ⟨⟨noDigitNext_cons rfl, by decide⟩, rfl, 'Z', rfl, by decide⟩

theorem endsUtc_zero : EndsUtc "+00:00".toList :=
  ⟨⟨noDigitNext_cons rfl, by decide⟩, rfl, '0', rfl, by decide⟩

theorem EndsUtc.ne_nil {ending : List Char} (ends : EndsUtc ending) : ending ≠ [] := by
  rintro rfl
  cases ends.offset

theorem ClockTime.exists?_iff (time : ClockTime) :
    time.exists? = true ↔ (time.hour ≤ 23 ∧ time.minute ≤ 59 ∧ time.second ≤ 60) ∧
      time.nanos < 1000000000 := by
  simp only [exists?, Bool.and_eq_true, decide_eq_true_eq, and_assoc]

/-- Milliseconds are written alike whether or not what is smaller is cut off first. -/
theorem ClockTime.text_cut_millis (time : ClockTime) :
    ClockTime.text .millis { time with nanos := SecondFraction.millis.cut time.nanos } =
      time.text .millis := by
  have millis : time.nanos / 1000000 * 1000000 / 1000000 = time.nanos / 1000000 :=
    Nat.mul_div_cancel _ (by decide)
  simp only [text, SecondFraction.text, SecondFraction.cut, millis]

/-- A date that is written with four digits for the year and two each for month and day. -/
structure CivilDate.Short (date : CivilDate) : Prop where
  year : 0 ≤ date.year ∧ date.year ≤ 9999
  month : date.month < 100
  day : date.day < 100

theorem CivilDate.lt_of_exists? {date : CivilDate} (valid : date.exists? = true) :
    date.month < 100 ∧ date.day < 100 := by
  obtain ⟨months, days⟩ := (exists?_iff date).1 valid
  have most : daysInMonth date.year date.month ≤ 31 := by
    unfold daysInMonth
    split
    · split <;> omega
    all_goals omega
  omega

theorem CivilDate.short_of_exists? {date : CivilDate} (valid : date.exists? = true)
    (years : 0 ≤ date.year ∧ date.year ≤ 9999) : date.Short :=
  ⟨years, (lt_of_exists? valid).1, (lt_of_exists? valid).2⟩

/-- The date of the interchange format is read as its numbers, whatever follows. -/
theorem readParts_strict_date {date : CivilDate} (short : date.Short) (rest : List Char) :
    readParts {} TimestampLayout.strict (date.text ++ rest) =
      readParts { date } (TimestampLayout.strict.drop 5) rest := by
  obtain ⟨year, month, day⟩ := date
  obtain ⟨years, months, days⟩ := short
  dsimp only at years months days
  have fits (n : Nat) (small : n < 100) : n < Nat.pow 10 2 := small
  have yearFits : year.toNat < Nat.pow 10 4 := show year.toNat < 10000 by omega
  have shape : CivilDate.text ⟨year, month, day⟩ ++ rest = paddedDigits 4 year.toNat ++
      '-' :: (paddedDigits 2 month ++ '-' :: (paddedDigits 2 day ++ rest)) := by
    simp only [CivilDate.text, years, and_self, if_true, List.append_assoc, List.cons_append]
  rw [shape, TimestampLayout.strict,
    readParts_cons (readPart_exact _ .year (by decide) yearFits _),
    readParts_cons (readPart_oneOf _ rfl _),
    readParts_cons (readPart_exact _ .month (by decide) (fits month months) _),
    readParts_cons (readPart_oneOf _ rfl _),
    readParts_cons (readPart_exact _ .day (by decide) (fits day days) _)]
  simp only [TimeFields.set, Int.toNat_of_nonneg years.1, List.drop_succ_cons, List.drop_zero]

/-- A date and time of day are read as their numbers, the fraction as far as it is written, and then
the offset is read. -/
theorem readParts_strict {date : CivilDate} (short : date.Short) {time : ClockTime}
    (valid : time.exists? = true) (fraction : SecondFraction) {separator : Char}
    (separates : ['T', 't', ' '].contains separator = true) {ending : List Char}
    (ends : EndsFraction ending) :
    readParts {} TimestampLayout.strict (date.text ++ separator :: time.text fraction ++ ending) =
      (readOffset ⟨false, true, false, true, false⟩ ending).map fun (offset, rest) =>
        (⟨date, { time with nanos := fraction.cut time.nanos }, offset⟩, rest) := by
  obtain ⟨hour, minute, second, nanos⟩ := time
  obtain ⟨⟨hours, minutes, seconds⟩, bound⟩ := (ClockTime.exists?_iff _).1 valid
  dsimp only at hours minutes seconds bound
  have fits (n : Nat) (small : n < 100) : n < Nat.pow 10 2 := small
  have shape : separator :: ClockTime.text fraction ⟨hour, minute, second, nanos⟩ ++ ending =
      separator :: (paddedDigits 2 hour ++ ':' :: (paddedDigits 2 minute ++ ':' ::
        (paddedDigits 2 second ++ (fraction.text nanos ++ ending)))) := by
    simp only [ClockTime.text, List.append_assoc, List.cons_append]
  rw [List.append_assoc, readParts_strict_date short, shape, TimestampLayout.strict,
    List.drop_succ_cons, List.drop_succ_cons, List.drop_succ_cons, List.drop_succ_cons,
    List.drop_succ_cons, List.drop_zero,
    readParts_cons (readPart_oneOf _ separates _),
    readParts_cons (readPart_exact _ .hour (by decide) (fits hour (by omega)) _),
    readParts_cons (readPart_oneOf _ rfl _),
    readParts_cons (readPart_exact _ .minute (by decide) (fits minute (by omega)) _),
    readParts_cons (readPart_oneOf _ rfl _),
    readParts_cons (readPart_exact _ .second (by decide) (fits second (by omega)) _)]
  simp only [readParts, readPart, readFraction_text fraction bound ends, Option.map_some,
    Option.bind_eq_bind, Option.bind_some, TimeFields.set]
  cases readOffset ⟨false, true, false, true, false⟩ ending <;> rfl

/-! ## Instants -/

/-- The dates of the years 0 to 9999 are in range. -/
theorem CivilDate.toDay_range {date : CivilDate} (short : date.Short) :
    firstDay ≤ date.toDay ∧ date.toDay ≤ lastDay := by
  obtain ⟨years, months, days⟩ := short
  simp only [toDay, firstDay, lastDay]
  split <;> omega

namespace Instant

theorem eq_of_second_of_nanos {left right : Instant} (second : left.second = right.second)
    (nanos : left.nanos = right.nanos) : left = right := by
  cases left
  cases right
  simp_all

/-- The second of a day, a leap second sharing the number of the one before. -/
def secondOfDay (time : ClockTime) : Nat :=
  time.hour * 3600 + time.minute * 60 + (if time.second = 60 then 59 else time.second)

theorem secondOfDay_lt {time : ClockTime} (valid : time.exists? = true) :
    secondOfDay time < 86400 := by
  rw [ClockTime.exists?_iff] at valid
  rw [secondOfDay]
  split <;> omega

/-- The nanoseconds of an instant, a leap second having a billion more. -/
def nanosOfClock (time : ClockTime) : Nat :=
  if time.second = 60 then time.nanos + 1000000000 else time.nanos

/-- The date of an instant that is given by its day. -/
theorem civil_of_day {instant : Instant} {day : Int} {ofDay : Nat}
    (second : instant.second = day * secondsPerDay + ofDay) (bound : ofDay < 86400) :
    instant.civil = .ofDay day := by
  rw [civil, second, secondsPerDay]
  congr 1
  omega

/-- The time of day of an instant that is given by it. -/
theorem clock_of_time {instant : Instant} {day : Int} {time : ClockTime}
    (valid : time.exists? = true)
    (atSecond : instant.second = day * secondsPerDay + secondOfDay time)
    (atNanos : instant.nanos = nanosOfClock time) : instant.clock = time := by
  have within : (instant.second % secondsPerDay).toNat = secondOfDay time := by
    have bound := secondOfDay_lt valid
    rw [atSecond, secondsPerDay]
    omega
  rw [ClockTime.exists?_iff] at valid
  obtain ⟨hour, minute, second, nanos⟩ := time
  dsimp only at valid
  rw [clock, within, atNanos]
  simp only [secondOfDay, nanosOfClock]
  by_cases leap : second = 60
  · subst leap
    simp only [if_true, ClockTime.mk.injEq]
    rw [if_pos (by omega), if_pos (by omega)]
    omega
  · simp only [leap, if_false, ClockTime.mk.injEq]
    rw [if_neg (by omega), if_neg (by omega)]
    omega

/-- A date in range and a time of day that exist name the second that is so far behind them. -/
theorem ofLocal?_eq {date : CivilDate} (dateExists : date.exists? = true)
    (range : firstDay ≤ date.toDay ∧ date.toDay ≤ lastDay) {time : ClockTime}
    (timeExists : time.exists? = true) (offset : Int) :
    ofLocal? date time offset =
      ofSeconds? (date.toDay * secondsPerDay + secondOfDay time - offset) (nanosOfClock time) := by
  have day : CalendarDate.ofCivil? date = some ⟨date.toDay, range⟩ := by
    simp only [CalendarDate.ofCivil?, CalendarDate.ofDay?, dateExists, if_true, range, and_self,
      dite_true]
  simp only [ofLocal?, day, timeExists, Option.bind_eq_bind, Option.bind_some, Bool.not_true,
    Bool.false_eq_true, if_false, secondOfDay, nanosOfClock]
  congr 1

/-- A date in range and a time of day that exist name an instant, which has them as its own. -/
theorem exists_ofLocal? {date : CivilDate} (dateExists : date.exists? = true)
    (range : firstDay ≤ date.toDay ∧ date.toDay ≤ lastDay) {time : ClockTime}
    (timeExists : time.exists? = true) :
    ∃ instant, ofLocal? date time 0 = some instant ∧ instant.civil = date ∧ instant.clock = time := by
  have bound := secondOfDay_lt timeExists
  have inRange : firstDay * secondsPerDay ≤ date.toDay * secondsPerDay + secondOfDay time ∧
      date.toDay * secondsPerDay + secondOfDay time < (lastDay + 1) * secondsPerDay := by
    simp only [firstDay, lastDay, secondsPerDay] at range ⊢
    omega
  have nanosBound : nanosOfClock time < 2000000000 := by
    rw [ClockTime.exists?_iff] at timeExists
    rw [nanosOfClock]
    split <;> omega
  have leapAtMinuteEnd : 1000000000 ≤ nanosOfClock time →
      (date.toDay * secondsPerDay + secondOfDay time) % 60 = 59 := by
    rw [ClockTime.exists?_iff] at timeExists
    rw [nanosOfClock, secondOfDay, secondsPerDay]
    split
    · omega
    · omega
  refine ⟨⟨_, _, inRange, nanosBound, leapAtMinuteEnd⟩, ?_, ?_, clock_of_time timeExists rfl rfl⟩
  · rw [ofLocal?_eq dateExists range timeExists, Int.sub_zero, ofSeconds?,
      dif_pos ⟨inRange, nanosBound, leapAtMinuteEnd⟩]
  · rw [civil_of_day rfl bound, CivilDate.ofDay_toDay dateExists]

/-- The time of day of an instant exists. -/
theorem clock_exists? (instant : Instant) : instant.clock.exists? = true := by
  have bound := instant.nanosBound
  have leap := instant.leapAtMinuteEnd
  by_cases isLeap : 1000000000 ≤ instant.nanos
  · simp only [clock, ClockTime.exists?_iff, secondsPerDay, isLeap, if_true]
    omega
  · simp only [clock, ClockTime.exists?_iff, secondsPerDay, isLeap, if_false]
    omega

/-- Instants with the same date and time of day are the same. -/
theorem eq_of_civil_of_clock {left right : Instant} (date : left.civil = right.civil)
    (time : left.clock = right.clock) : left = right := by
  have day : left.second / secondsPerDay = right.second / secondsPerDay := by
    rw [← (CivilDate.toDay_ofDay (left.second / secondsPerDay)).1,
      ← (CivilDate.toDay_ofDay (right.second / secondsPerDay)).1]
    exact congrArg CivilDate.toDay date
  have leftLeap := left.leapAtMinuteEnd
  have rightLeap := right.leapAtMinuteEnd
  rw [secondsPerDay] at day
  simp only [clock, secondsPerDay, ClockTime.mk.injEq] at time
  obtain ⟨hour, minute, second, nanos⟩ := time
  by_cases isLeft : 1000000000 ≤ left.nanos <;> by_cases isRight : 1000000000 ≤ right.nanos <;>
    simp only [isLeft, isRight, if_true, if_false] at second nanos <;>
    exact eq_of_second_of_nanos (by omega) (by omega)

/-- The instant as far as its fraction is written. -/
def cut (fraction : SecondFraction) (instant : Instant) : Instant where
  second := instant.second
  nanos := fraction.cut instant.nanos
  inRange := instant.inRange
  nanosBound := by
    have bound := instant.nanosBound
    cases fraction <;> simp only [SecondFraction.cut] <;> omega
  leapAtMinuteEnd := by
    have leap := instant.leapAtMinuteEnd
    cases fraction <;> simp only [SecondFraction.cut] <;> omega

theorem clock_cut (fraction : SecondFraction) (instant : Instant) :
    (instant.cut fraction).clock =
      { instant.clock with nanos := fraction.cut instant.clock.nanos } := by
  cases fraction with
  | shortest => rfl
  | millis =>
    have same : 1000000000 ≤ instant.nanos / 1000000 * 1000000 ↔ 1000000000 ≤ instant.nanos := by
      omega
    simp only [clock, cut, SecondFraction.cut, same, ClockTime.mk.injEq, true_and]
    split <;> omega

end Instant

/-! ## Stored timestamps -/

/-- A date begins with a digit or a sign, so with no blank. -/
theorem CivilDate.exists_text_eq_cons (date : CivilDate) :
    ∃ c rest, date.text = c :: rest ∧ isBlank c = false := by
  rw [text]
  split
  · obtain ⟨c, rest, cons, digit⟩ := exists_paddedDigits_eq_cons 4 date.year.toNat
    rw [cons]
    exact ⟨c, _, rfl, isBlank_of_isDigit digit⟩
  · exact ⟨_, _, rfl, by split <;> decide⟩

/-- There are no blanks to trim around a date and what follows it, if that ends with no blank. -/
theorem trim_date (date : CivilDate) {more : List Char} (ends : EndsSolid (date.text ++ more)) :
    trim (date.text ++ more) = date.text ++ more := by
  obtain ⟨first, rest, begins, firstNotBlank⟩ := date.exists_text_eq_cons
  obtain ⟨final, isLast, finalNotBlank⟩ := ends
  refine trim_of_ends (fun c head => ?_) (fun c last => ?_)
  · rw [begins] at head
    cases head
    exact firstNotBlank
  · rw [isLast] at last
    cases last
    exact finalNotBlank

theorem trim_timestamp (date : CivilDate) (more : List Char) {ending : List Char}
    (ends : EndsUtc ending) : trim (date.text ++ more ++ ending) = date.text ++ more ++ ending := by
  rw [List.append_assoc]
  exact trim_date date (EndsSolid.append (EndsSolid.append ends.noBlank more) date.text)

namespace Instant

/-- The text of a date and time of day is read as an instant that has them as its own, the fraction
as far as it is written. -/
theorem exists_ofStored?_text {date : CivilDate} (dateExists : date.exists? = true)
    (years : 0 ≤ date.year ∧ date.year ≤ 9999) {time : ClockTime} (timeExists : time.exists? = true)
    (fraction : SecondFraction) {ending : List Char} (ends : EndsUtc ending) :
    ∃ instant, ofStored? (String.ofList (date.text ++ 'T' :: time.text fraction ++ ending)) =
        some instant ∧
      instant.civil = date ∧ instant.clock = { time with nanos := fraction.cut time.nanos } := by
  have short := CivilDate.short_of_exists? dateExists years
  have cutExists : ClockTime.exists? { time with nanos := fraction.cut time.nanos } = true := by
    rw [ClockTime.exists?_iff] at timeExists ⊢
    refine ⟨timeExists.1, ?_⟩
    cases fraction <;> simp only [SecondFraction.cut] <;> omega
  obtain ⟨instant, named, own⟩ :=
    exists_ofLocal? dateExists (CivilDate.toDay_range short) cutExists
  refine ⟨instant, ?_, own⟩
  have read : readTimestamp TimestampLayout.strict
      (date.text ++ 'T' :: time.text fraction ++ ending) = some instant := by
    rw [readTimestamp, readParts_strict short timeExists fraction rfl ends.toEndsFraction, ends.offset]
    exact named
  rw [ofStored?, String.toList_ofList, trim_timestamp _ _ ends, TimestampLayout.stored,
    List.findSome?_cons, read]

/-- The text of an instant is read as the instant as far as its fraction is written. -/
theorem ofStored?_text {instant : Instant}
    (years : 0 ≤ instant.civil.year ∧ instant.civil.year ≤ 9999) (fraction : SecondFraction)
    {ending : List Char} (ends : EndsUtc ending) :
    ofStored? (String.ofList (instant.text fraction ++ ending)) = some (instant.cut fraction) := by
  obtain ⟨found, read, date, time⟩ := exists_ofStored?_text
    (CivilDate.toDay_ofDay (instant.second / secondsPerDay)).2 years instant.clock_exists? fraction ends
  have same : found = instant.cut fraction :=
    eq_of_civil_of_clock date (by rw [time, clock_cut])
  rw [← same]
  exact read

/-- The years that are written with four digits. -/
def HasShortYear (instant : Instant) : Prop := 0 ≤ instant.civil.year ∧ instant.civil.year ≤ 9999

instance (instant : Instant) : Decidable instant.HasShortYear :=
  inferInstanceAs (Decidable (_ ∧ _))

theorem ofStored?_toIsoText {instant : Instant} (short : instant.HasShortYear) :
    ofStored? instant.toIsoText = some (instant.cut .millis) :=
  ofStored?_text short .millis endsUtc_zulu

/-- A timestamp in normal form is read as an instant with this normal form. -/
theorem exists_ofStored?_toIsoText {date : CivilDate} (dateExists : date.exists? = true)
    (years : 0 ≤ date.year ∧ date.year ≤ 9999) {time : ClockTime}
    (timeExists : time.exists? = true) :
    ∃ instant, ofStored? (String.ofList (date.text ++ 'T' :: time.text .millis ++ ['Z'])) =
        some instant ∧
      instant.toIsoText = String.ofList (date.text ++ 'T' :: time.text .millis ++ ['Z']) := by
  obtain ⟨instant, read, sameDate, sameTime⟩ :=
    exists_ofStored?_text dateExists years timeExists .millis endsUtc_zulu
  refine ⟨instant, read, ?_⟩
  rw [toIsoText, text, sameDate, sameTime, ClockTime.text_cut_millis]

end Instant

end RecordStore
