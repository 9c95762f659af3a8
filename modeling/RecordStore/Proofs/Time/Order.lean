import RecordStore.Proofs.Text.Order
import RecordStore.Proofs.Time.Text

/-!
# The order of timestamps

The text of an instant starts with fields of fixed width, the greatest first, so that texts are ordered
by the numbers that these digits write. The fraction of the second is as short as it can be: what ends
it, a plus sign, comes before the point and before every digit, and so a text that stops earlier is
before one that goes on (`SecondFraction.codeOrder_shortest`). In the years 0 to 9999 the whole is the
order of time (`Instant.codeOrder_toOffsetText`).
-/

namespace RecordStore

open Text

/-! ## Dates -/

namespace CivilDate

/-- How many days the years before one have, counted from March. -/
def daysBeforeYear (year : Int) : Int := 365 * year + year / 4 - year / 100 + year / 400

theorem daysBeforeYear_mono {year later : Int} (le : year ≤ later) :
    daysBeforeYear year ≤ daysBeforeYear later := by
  simp only [daysBeforeYear]
  omega

theorem toDay_ofMarch_eq (year : Int) {month : Nat} (range : month < 12) (day : Nat) :
    (ofMarch year month day).toDay =
      daysBeforeYear year + dayFromMarch month day - 719468 := by
  rw [toDay_ofMarch year range, eraDay, daysBeforeYear]
  omega

/-- The days of a year end before the next year begins. -/
theorem dayOfEra_lt_daysBeforeYear {year day : Int} (valid : DayOfEra (year % 400) day) :
    daysBeforeYear year + day < daysBeforeYear (year + 1) := by
  obtain ⟨-, -, -, dayHigh, leap⟩ := valid
  rw [isLeapYear_iff] at leap
  simp only [daysBeforeYear]
  omega

/-- The order of dates by year, month and day. -/
def Precedes (left right : CivilDate) : Prop :=
  left.year < right.year ∨ left.year = right.year ∧
    (left.month < right.month ∨ left.month = right.month ∧ left.day < right.day)

/-- A date that precedes another one has the earlier day. -/
theorem toDay_lt_of_precedes {left right : CivilDate} (leftExists : left.exists? = true)
    (rightExists : right.exists? = true) (precedes : left.Precedes right) :
    left.toDay < right.toDay := by
  obtain ⟨year, month, range, counted⟩ := exists_ofMarch leftExists
  obtain ⟨year', month', range', counted'⟩ := exists_ofMarch rightExists
  -- counted from March, the dates have the same order
  have fromMarch : year < year' ∨ year = year' ∧
      (month < month' ∨ month = month' ∧ left.day < right.day) := by
    rw [← counted, ← counted'] at precedes
    simp only [Precedes, ofMarch] at precedes
    split at precedes <;> split at precedes <;> omega
  rw [← counted, exists?_ofMarch year range] at leftExists
  rw [← counted', exists?_ofMarch year' range'] at rightExists
  obtain ⟨-, found, valid⟩ := leftExists
  obtain ⟨-, found', valid'⟩ := rightExists
  rw [← counted, ← counted', toDay_ofMarch_eq year range, toDay_ofMarch_eq year' range']
  rcases fromMarch with earlier | ⟨rfl, earlier | ⟨rfl, earlier⟩⟩
  · have within := dayOfEra_lt_daysBeforeYear valid
    have years := daysBeforeYear_mono earlier
    have nonneg := valid'.day_nonneg
    omega
  · omega
  · simp only [dayFromMarch]
    omega

/-- The number that the digits of a date write. -/
def number (date : CivilDate) : Nat := 100 * (100 * date.year.toNat + date.month) + date.day

/-- Days are ordered as the digits of their dates. -/
theorem compare_toDay {left right : CivilDate} (leftExists : left.exists? = true)
    (rightExists : right.exists? = true) (leftShort : left.Short) (rightShort : right.Short) :
    compare left.toDay right.toDay = compare left.number right.number := by
  obtain ⟨years, months, days⟩ := leftShort
  obtain ⟨years', months', days'⟩ := rightShort
  rcases Nat.lt_trichotomy left.number right.number with less | same | greater
  · have precedes : left.Precedes right := by
      simp only [number] at less
      rw [Precedes]
      omega
    rw [Nat.compare_eq_lt.2 less, Int.compare_eq_lt.2
      (toDay_lt_of_precedes leftExists rightExists precedes)]
  · have equal : left = right := by
      simp only [number] at same
      cases left
      cases right
      simp only [mk.injEq] at *
      omega
    rw [equal, Std.compare_self, Std.compare_self]
  · have precedes : right.Precedes left := by
      simp only [number] at greater
      rw [Precedes]
      omega
    rw [Nat.compare_eq_gt.2 greater, Int.compare_eq_gt.2
      (toDay_lt_of_precedes rightExists leftExists precedes)]

/-- The texts of dates are ordered as their digits, before what follows them. -/
theorem codeOrder_text_append {left right : CivilDate} (leftShort : left.Short)
    (rightShort : right.Short) (more rest : List Char) :
    codeOrder (left.text ++ more) (right.text ++ rest) =
      (compare left.number right.number).then (codeOrder more rest) := by
  obtain ⟨years, months, days⟩ := leftShort
  obtain ⟨years', months', days'⟩ := rightShort
  have fits (n : Nat) (small : n < 100) : n < Nat.pow 10 2 := small
  have yearFits : left.year.toNat < Nat.pow 10 4 := show left.year.toNat < 10000 by omega
  have yearFits' : right.year.toNat < Nat.pow 10 4 := show right.year.toNat < 10000 by omega
  simp only [text, years, years', and_self, if_true, List.append_assoc, List.cons_append]
  rw [codeOrder_paddedDigits_append (by decide) yearFits yearFits', codeOrder_cons_self,
    codeOrder_paddedDigits_append (by decide) (fits _ months) (fits _ months'), codeOrder_cons_self,
    codeOrder_paddedDigits_append (by decide) (fits _ days) (fits _ days'), number, number,
    compare_mul_add days days', compare_mul_add months months', Ordering.then_assoc,
    Ordering.then_assoc]

end CivilDate

/-! ## Fractions -/

/-- Groups of three digits without those at the end that are all zeros. -/
def groupedDigits : List Nat → List Char
  | [] => []
  | group :: rest =>
    if (group :: rest).all (· == 0) then [] else paddedDigits 3 group ++ groupedDigits rest

theorem compareLists_of_all_zero {left right : List Nat} (zeros : left.all (· == 0) = true)
    (length : left.length = right.length) :
    Cell.compareLists left right = if right.all (· == 0) then .eq else .lt := by
  induction left generalizing right with
  | nil =>
    cases List.length_eq_zero_iff.1 length.symm
    rfl
  | cons a left ih =>
    cases right with
    | nil => cases length
    | cons b right =>
      simp only [List.all_cons, Bool.and_eq_true, beq_iff_eq] at zeros ⊢
      obtain ⟨rfl, zeros⟩ := zeros
      rw [Cell.compareLists, ih zeros (Nat.succ.inj length)]
      cases b with
      | zero => simp
      | succ b => simp [Nat.compare_eq_lt.2 (Nat.succ_pos b)]

/-- Where one text has no more groups and the other one has, the plus sign that ends the first is before
the digits of the other. -/
theorem codeOrder_groupedDigits {left right : List Nat} (length : left.length = right.length)
    (small : ∀ group ∈ left, group < 1000) (small' : ∀ group ∈ right, group < 1000)
    (more : List Char) :
    codeOrder (groupedDigits left ++ '+' :: more) (groupedDigits right ++ '+' :: more) =
      Cell.compareLists left right := by
  have plus (group : Nat) (rest : List Char) :
      codeOrder ('+' :: more) (paddedDigits 3 group ++ rest) = .lt := by
    obtain ⟨c, digits, starts, digit⟩ := exists_paddedDigits_eq_cons 3 group
    have code : '+'.toNat < c.toNat := Nat.lt_of_lt_of_le (by decide) (toNat_of_isDigit digit).1
    rw [starts, List.cons_append, codeOrder_cons, Nat.compare_eq_lt.2 code, Ordering.lt_then]
  have same : codeOrder ('+' :: more) ('+' :: more) = .eq := (Cell.compareLists_eq_iff _ _).2 rfl
  induction left generalizing right with
  | nil =>
    cases List.length_eq_zero_iff.1 length.symm
    exact same
  | cons a left ih =>
    cases right with
    | nil => cases length
    | cons b right =>
      rw [groupedDigits, groupedDigits]
      split
      · next zeros =>
        rw [compareLists_of_all_zero zeros length]
        split
        · exact same
        · rw [List.nil_append, List.append_assoc, plus]
      · next noZeros =>
        split
        · next zeros =>
          rw [← Cell.compareLists_swap, compareLists_of_all_zero zeros length.symm, if_neg noZeros,
            ← codeOrder_swap, List.nil_append, List.append_assoc, plus]
        · have rest := ih (Nat.succ.inj length)
            (fun group member => small group (List.mem_cons_of_mem a member))
            (fun group member => small' group (List.mem_cons_of_mem b member))
          rw [List.append_assoc, List.append_assoc,
            codeOrder_paddedDigits_append (by decide) (small a List.mem_cons_self)
              (small' b List.mem_cons_self), rest, Cell.compareLists]

/-- The groups of three digits that nanoseconds are written in. -/
def nanoGroups (nanos : Nat) : List Nat := [nanos / 1000000, nanos / 1000 % 1000, nanos % 1000]

theorem compareLists_nanoGroups (m n : Nat) :
    Cell.compareLists (nanoGroups m) (nanoGroups n) = compare m n := by
  have parts (n : Nat) : 1000 * (1000 * (n / 1000000) + n / 1000 % 1000) + n % 1000 = n := by omega
  have last (n : Nat) : n % 1000 < 1000 := Nat.mod_lt n (by decide)
  have whole := compare_mul_add (last m) (last n) (1000 * (m / 1000000) + m / 1000 % 1000)
    (1000 * (n / 1000000) + n / 1000 % 1000)
  rw [parts m, parts n, compare_mul_add (last (m / 1000)) (last (n / 1000))] at whole
  rw [whole, Ordering.then_assoc]
  simp only [nanoGroups, Cell.compareLists, Ordering.then_eq]

namespace SecondFraction

/-- A fraction is a point and the groups of its nanoseconds. -/
theorem shortest_text_eq {nanos : Nat} (positive : nanos ≠ 0) (bound : nanos < 1000000000) :
    shortest.text nanos = '.' :: groupedDigits (nanoGroups nanos) := by
  rw [text, if_neg positive]
  have six {n : Nat} (small : n < 1000000) :
      paddedDigits 6 n = paddedDigits 3 (n / 1000) ++ paddedDigits 3 (n % 1000) :=
    @paddedDigits_add 3 3 n (by decide) (by decide) small
  have below : nanos % 1000000 < 1000000 := Nat.mod_lt nanos (by decide)
  have nine : paddedDigits 9 nanos =
      paddedDigits 3 (nanos / 1000000) ++ paddedDigits 6 (nanos % 1000000) :=
    @paddedDigits_add 3 6 nanos (by decide) (by decide) bound
  split
  · next whole =>
    have zeros : nanos / 1000 % 1000 = 0 ∧ nanos % 1000 = 0 := by omega
    have first : nanos / 1000000 ≠ 0 := by omega
    simp [nanoGroups, groupedDigits, zeros, first]
  · next parts =>
    split
    · next whole =>
      have second : nanos / 1000 % 1000 ≠ 0 := by omega
      have front : nanos / 1000 / 1000 = nanos / 1000000 := by omega
      have fits : nanos / 1000 < 1000000 := by omega
      simp [nanoGroups, groupedDigits, whole, second, six fits, front]
    · next parts' =>
      have middle : nanos % 1000000 / 1000 = nanos / 1000 % 1000 := by omega
      have back : nanos % 1000000 % 1000 = nanos % 1000 := by omega
      simp [nanoGroups, groupedDigits, parts', nine, six below, middle, back]

/-- Fractions before a plus sign are ordered as their nanoseconds. -/
theorem codeOrder_shortest {m n : Nat} (bound : m < 1000000000) (bound' : n < 1000000000)
    (more : List Char) :
    codeOrder (shortest.text m ++ '+' :: more) (shortest.text n ++ '+' :: more) = compare m n := by
  have plus (rest : List Char) : codeOrder ('+' :: more) ('.' :: rest) = .lt := rfl
  have zero : shortest.text 0 = [] := rfl
  have small {n : Nat} (bound : n < 1000000000) : ∀ group ∈ nanoGroups n, group < 1000 := by
    simp only [nanoGroups, List.mem_cons, List.not_mem_nil, or_false]
    omega
  by_cases none : m = 0
  · by_cases none' : n = 0
    · rw [none, none', Std.compare_self]
      exact (Cell.compareLists_eq_iff _ _).2 rfl
    · rw [none, zero, shortest_text_eq none' bound', List.nil_append, List.cons_append, plus,
        Nat.compare_eq_lt.2 (Nat.pos_of_ne_zero none')]
  · by_cases none' : n = 0
    · rw [none', zero, shortest_text_eq none bound, List.nil_append, List.cons_append,
        ← codeOrder_swap, plus, Nat.compare_eq_gt.2 (Nat.pos_of_ne_zero none)]
      rfl
    · rw [shortest_text_eq none bound, shortest_text_eq none' bound', List.cons_append,
        List.cons_append, codeOrder_cons_self,
        codeOrder_groupedDigits (by rfl) (small bound) (small bound'), compareLists_nanoGroups]

end SecondFraction

/-! ## Times of day -/

namespace ClockTime

/-- The number that the digits of a time of day write, up to the second. -/
def number (time : ClockTime) : Nat := 100 * (100 * time.hour + time.minute) + time.second

/-- The texts of times of day before a plus sign are ordered as their digits and then as their
nanoseconds. -/
theorem codeOrder_text {left right : ClockTime} (leftExists : left.exists? = true)
    (rightExists : right.exists? = true) (more : List Char) :
    codeOrder (left.text .shortest ++ '+' :: more) (right.text .shortest ++ '+' :: more) =
      (compare left.number right.number).then (compare left.nanos right.nanos) := by
  obtain ⟨⟨hours, minutes, seconds⟩, nanos⟩ := (exists?_iff left).1 leftExists
  obtain ⟨⟨hours', minutes', seconds'⟩, nanos'⟩ := (exists?_iff right).1 rightExists
  have fits {n : Nat} (small : n ≤ 60) : n < Nat.pow 10 2 := show n < 100 by omega
  have minutesFit : left.minute < 100 ∧ right.minute < 100 := by omega
  have secondsFit : left.second < 100 ∧ right.second < 100 := by omega
  simp only [text, List.append_assoc, List.cons_append]
  rw [codeOrder_paddedDigits_append (by decide) (fits (by omega)) (fits (by omega)),
    codeOrder_cons_self,
    codeOrder_paddedDigits_append (by decide) (fits (by omega)) (fits (by omega)),
    codeOrder_cons_self, codeOrder_paddedDigits_append (by decide) (fits seconds) (fits seconds'),
    SecondFraction.codeOrder_shortest nanos nanos', number, number,
    compare_mul_add secondsFit.1 secondsFit.2, compare_mul_add minutesFit.1 minutesFit.2,
    Ordering.then_assoc, Ordering.then_assoc]

end ClockTime

/-! ## Instants -/

namespace Instant

/-- The order of time. A leap second has the number of the second before it and more nanoseconds. -/
def timeOrder (left right : Instant) : Ordering :=
  (compare left.second right.second).then (compare left.nanos right.nanos)

/-- The number that the digits of a second of the day write. -/
def digitsOfSecond (second : Nat) : Nat := 100 * (100 * (second / 3600) + second / 60 % 60) + second % 60

/-- Later seconds of a day write greater numbers; between a last second of a minute and the next one
there is room for a leap second. -/
theorem digitsOfSecond_lt {second later : Nat} (less : second < later) :
    digitsOfSecond second < digitsOfSecond later ∧
      (second % 60 = 59 → digitsOfSecond second + 1 < digitsOfSecond later) := by
  have hours (n : Nat) : n / 60 / 60 = n / 3600 := Nat.div_div_eq_div_mul n 60 60
  have hour := hours second
  have hour' := hours later
  simp only [digitsOfSecond]
  omega

/-- The second of the day of an instant. -/
def daySecond (instant : Instant) : Nat := (instant.second % secondsPerDay).toNat

theorem number_clock (instant : Instant) :
    instant.clock.number =
      digitsOfSecond instant.daySecond + if 1000000000 ≤ instant.nanos then 1 else 0 := by
  simp only [clock, ClockTime.number, digitsOfSecond, daySecond]
  split <;> rfl

theorem daySecond_of_leap {instant : Instant} (leap : 1000000000 ≤ instant.nanos) :
    instant.daySecond % 60 = 59 := by
  have last := instant.leapAtMinuteEnd leap
  rw [daySecond, secondsPerDay]
  omega

theorem number_clock_lt {left right : Instant} (less : left.daySecond < right.daySecond) :
    left.clock.number < right.clock.number := by
  obtain ⟨later, room⟩ := digitsOfSecond_lt less
  rw [number_clock, number_clock]
  split
  · next leap =>
    have roomy := room (daySecond_of_leap leap)
    omega
  · omega

/-- Within a second, the digits of the time of day and then the nanoseconds have the order of time: the
digits of a leap second are greater and its nanoseconds a billion less. -/
theorem compare_clock {left right : Instant} (same : left.daySecond = right.daySecond) :
    (compare left.clock.number right.clock.number).then
        (compare left.clock.nanos right.clock.nanos) = compare left.nanos right.nanos := by
  have bound := left.nanosBound
  have bound' := right.nanosBound
  rw [number_clock, number_clock, same]
  refine ordering_ext ?_ ?_
  · simp only [clock, Ordering.then_eq_lt, Nat.compare_eq_lt, Nat.compare_eq_eq]
    split <;> split <;> omega
  · simp only [clock, Ordering.then_eq_gt, Nat.compare_eq_gt, Nat.compare_eq_eq]
    split <;> split <;> omega

/-- Within a day, the digits of the time of day and then the nanoseconds have the order of time. -/
theorem compare_clock_of_sameDay {left right : Instant}
    (sameDay : left.second / secondsPerDay = right.second / secondsPerDay) :
    (compare left.clock.number right.clock.number).then
        (compare left.clock.nanos right.clock.nanos) = left.timeOrder right := by
  rw [timeOrder]
  rcases Nat.lt_trichotomy left.daySecond right.daySecond with less | same | greater
  · have second : left.second < right.second := by
      simp only [daySecond, secondsPerDay] at less sameDay
      omega
    rw [Nat.compare_eq_lt.2 (number_clock_lt less), Int.compare_eq_lt.2 second, Ordering.lt_then,
      Ordering.lt_then]
  · have second : left.second = right.second := by
      simp only [daySecond, secondsPerDay] at same sameDay
      omega
    rw [compare_clock same, second, Std.compare_self, Ordering.eq_then]
  · have second : right.second < left.second := by
      simp only [daySecond, secondsPerDay] at greater sameDay
      omega
    rw [Nat.compare_eq_gt.2 (number_clock_lt greater), Int.compare_eq_gt.2 second, Ordering.gt_then,
      Ordering.gt_then]

/-- The texts that instants of the years 0 to 9999 are bound as have the order of time. -/
theorem codeOrder_toOffsetText {left right : Instant} (short : left.HasShortYear)
    (short' : right.HasShortYear) :
    codeOrder left.toOffsetText.toList right.toOffsetText.toList = left.timeOrder right := by
  have dates := CivilDate.toDay_ofDay (left.second / secondsPerDay)
  have dates' := CivilDate.toDay_ofDay (right.second / secondsPerDay)
  have shape (instant : Instant) : instant.toOffsetText.toList =
      instant.civil.text ++ 'T' :: (instant.clock.text .shortest ++ '+' :: "00:00".toList) := by
    rw [toOffsetText, String.toList_ofList, text, List.append_assoc]
    rfl
  have written : CivilDate.Short left.civil := CivilDate.short_of_exists? dates.2 short
  have written' : CivilDate.Short right.civil := CivilDate.short_of_exists? dates'.2 short'
  have days := CivilDate.compare_toDay dates.2 dates'.2 written written'
  rw [dates.1, dates'.1] at days
  rw [shape, shape, CivilDate.codeOrder_text_append written written', codeOrder_cons_self,
    ClockTime.codeOrder_text left.clock_exists? right.clock_exists?, civil, civil, ← days]
  rcases Int.lt_trichotomy (left.second / secondsPerDay) (right.second / secondsPerDay) with
    less | same | greater
  · have second : left.second < right.second := by
      rw [secondsPerDay] at less
      omega
    rw [timeOrder, Int.compare_eq_lt.2 less, Int.compare_eq_lt.2 second, Ordering.lt_then,
      Ordering.lt_then]
  · rw [same, Std.compare_self, Ordering.eq_then, compare_clock_of_sameDay same]
  · have second : right.second < left.second := by
      rw [secondsPerDay] at greater
      omega
    rw [timeOrder, Int.compare_eq_gt.2 greater, Int.compare_eq_gt.2 second, Ordering.gt_then,
      Ordering.gt_then]

end Instant

end RecordStore
