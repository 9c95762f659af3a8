import RecordStore.Time.Calendar

/-!
# Days and dates

Days and civil dates are the same thing: the date of a day exists and has that day
(`CivilDate.toDay_ofDay`), and a date that exists is the date of its day (`CivilDate.ofDay_toDay`).
Both go through the day of the era, which is a year of the era and a day of that year in one way only.
-/

namespace RecordStore

namespace CivilDate

/-! ## Eras -/

/-- A year of an era and a day of that year, both counted from zero. A year that ends with the last
day of February has a day more when the next year is a leap year. -/
structure DayOfEra (year day : Int) : Prop where
  year_nonneg : 0 ≤ year
  year_lt : year < 400
  day_nonneg : 0 ≤ day
  day_le : day ≤ 365
  leap : day = 365 → isLeapYear (year + 1) = true

/-- The number of a day within its era. -/
def eraDay (year day : Int) : Int := 365 * year + year / 4 - year / 100 + day

theorem isLeapYear_iff (year : Int) :
    isLeapYear year = true ↔ year % 4 = 0 ∧ (year % 100 ≠ 0 ∨ year % 400 = 0) := by
  simp [isLeapYear]

/-- Leap years repeat with every era. -/
theorem isLeapYear_add_eras (year eras : Int) :
    isLeapYear (year + eras * 400) = isLeapYear year := by
  rw [Bool.eq_iff_iff, isLeapYear_iff, isLeapYear_iff]
  omega

/-- The year of the era is found from the day of the era. -/
theorem yearOfEra_eraDay {year day : Int} (valid : DayOfEra year day) :
    (eraDay year day - eraDay year day / 1460 + eraDay year day / 36524 -
      eraDay year day / 146096) / 365 = year := by
  obtain ⟨yearLow, yearHigh, dayLow, dayHigh, leap⟩ := valid
  rw [isLeapYear_iff] at leap
  generalize number : eraDay year day = e
  rw [eraDay] at number
  -- Centuries, spans of four years within them, and years within those.
  obtain ⟨c, q, r, split, centuries, spans, years⟩ : ∃ c q r : Int, year = 100 * c + 4 * q + r ∧
      (0 ≤ c ∧ c ≤ 3) ∧ (0 ≤ q ∧ q ≤ 24) ∧ (0 ≤ r ∧ r ≤ 3) :=
    ⟨year / 100, year % 100 / 4, year % 4, by omega, by omega, by omega, by omega⟩
  have leapDays : year / 4 = 25 * c + q ∧ year / 100 = c := by omega
  have last : day = 365 → r = 3 ∧ (q = 24 → c = 3) := by omega
  clear leap
  obtain ⟨w, within, range, full⟩ : ∃ w : Int, w = 1461 * q + 365 * r + day ∧
      (0 ≤ w ∧ w ≤ 36524) ∧ (w = 36524 → c = 3) :=
    ⟨_, rfl, by omega, by omega⟩
  have ofCentury : e = 36524 * c + w := by omega
  have century : e / 36524 - e / 146096 = c := by
    by_cases final : w = 36524
    · cases full final
      subst final
      omega
    · omega
  have span : e / 1460 = 25 * c + q + (24 * c + q + 365 * r + day) / 1460 := by omega
  have first : day = 0 → (24 * c + q + 365 * r + day) / 1460 = 0 := by omega
  have extra : day = 365 → (24 * c + q + 365 * r + day) / 1460 = 1 := by omega
  omega

/-- Every day of an era belongs to a year of it. -/
theorem exists_dayOfEra {e : Int} (low : 0 ≤ e) (high : e < 146097) :
    ∃ year day, DayOfEra year day ∧ eraDay year day = e := by
  by_cases last : e = 146096
  · exact ⟨399, 365, ⟨by decide, by decide, by decide, by decide, by decide⟩, by rw [last]; decide⟩
  obtain ⟨c, q, r, split, centuries, spans, days⟩ : ∃ c q r : Int,
      e = 36524 * c + 1461 * q + r ∧ (0 ≤ c ∧ c ≤ 3) ∧ (0 ≤ q ∧ q ≤ 24) ∧
        (0 ≤ r ∧ r ≤ 1460 ∧ (r = 1460 → q ≤ 23)) :=
    ⟨e / 36524, e % 36524 / 1461, e % 36524 % 1461, by omega, by omega, by omega, by omega⟩
  by_cases leap : r = 1460
  · have quarter : (100 * c + 4 * q + 3) / 4 = 25 * c + q := by omega
    have century : (100 * c + 4 * q + 3) / 100 = c := by omega
    refine ⟨100 * c + 4 * q + 3, 365, ⟨by omega, by omega, by omega, by omega, fun _ => ?_⟩, ?_⟩
    · rw [isLeapYear_iff]
      omega
    · rw [eraDay]
      omega
  · obtain ⟨y, day, year, range⟩ : ∃ y day : Int, r = 365 * y + day ∧
        (0 ≤ y ∧ y ≤ 3 ∧ 0 ≤ day ∧ day < 365) :=
      ⟨r / 365, r % 365, by omega, by omega⟩
    have quarter : (100 * c + 4 * q + y) / 4 = 25 * c + q := by omega
    have century : (100 * c + 4 * q + y) / 100 = c := by omega
    refine ⟨100 * c + 4 * q + y, day, ⟨by omega, by omega, by omega, by omega, by omega⟩, ?_⟩
    rw [eraDay]
    omega

theorem eraDay_range {year day : Int} (valid : DayOfEra year day) :
    0 ≤ eraDay year day ∧ eraDay year day < 146097 := by
  obtain ⟨yearLow, yearHigh, dayLow, dayHigh, leap⟩ := valid
  rw [isLeapYear_iff] at leap
  rw [eraDay]
  omega

/-! ## Months -/

theorem exists?_iff (date : CivilDate) :
    date.exists? = true ↔ (1 ≤ date.month ∧ date.month ≤ 12) ∧ 1 ≤ date.day ∧
      date.day ≤ daysInMonth date.year date.month := by
  simp only [exists?, Bool.and_eq_true, decide_eq_true_eq, and_assoc]

/-- The date with a day of a month, the months being counted from zero for March and the year
beginning with them. -/
def ofMarch (year : Int) (month day : Nat) : CivilDate :=
  ⟨if month < 10 then year else year + 1, if month < 10 then month + 3 else month - 9, day⟩

/-- The day of the year that begins in March. -/
def dayFromMarch (month day : Nat) : Int := (153 * month + 2) / 5 + day - 1

/-- Every date can be counted from March. -/
theorem exists_ofMarch {date : CivilDate} (valid : date.exists? = true) :
    ∃ year, ∃ month < 12, ofMarch year month date.day = date := by
  obtain ⟨⟨low, high⟩, -⟩ := (exists?_iff date).1 valid
  obtain ⟨year, month, day⟩ := date
  dsimp only at low high
  by_cases early : month ≤ 2
  · refine ⟨year - 1, month + 9, by omega, ?_⟩
    rw [ofMarch, if_neg (by omega), if_neg (by omega)]
    simp
  · refine ⟨year, month - 3, by omega, ?_⟩
    rw [ofMarch, if_pos (by omega), if_pos (by omega), Nat.sub_add_cancel (by omega)]

theorem toDay_ofMarch (year : Int) {month : Nat} (range : month < 12) (day : Nat) :
    (ofMarch year month day).toDay =
      year / 400 * 146097 + eraDay (year % 400) (dayFromMarch month day) - 719468 := by
  by_cases late : month < 10
  · have shifted : ¬ month + 3 ≤ 2 := by omega
    have counted : ((month + 3 : Nat) + 9 : Int) % 12 = month := by omega
    simp only [toDay, ofMarch, late, if_true, shifted, if_false, counted, eraDay, dayFromMarch]
    omega
  · have shifted : month - 9 ≤ 2 := by omega
    have counted : ((month - 9 : Nat) + 9 : Int) % 12 = month := by omega
    have before : year + 1 - 1 = year := by omega
    simp only [toDay, ofMarch, late, if_true, shifted, if_false, counted, eraDay, dayFromMarch,
      before]
    omega

/-- The date of a day is found from the year of the era and the month and day from March. -/
theorem ofDay_ofMarch (era : Int) {year : Int} {month day : Nat} (range : month < 12)
    (valid : DayOfEra year (dayFromMarch month day))
    (found : (5 * dayFromMarch month day + 2) / 153 = month) :
    ofDay (era * 146097 + eraDay year (dayFromMarch month day) - 719468) =
      ofMarch (year + era * 400) month day := by
  have bounds := eraDay_range valid
  have yearOfEra := yearOfEra_eraDay valid
  generalize number : dayFromMarch month day = dayOfYear at *
  have shifted : era * 146097 + eraDay year dayOfYear - 719468 + 719468 =
      eraDay year dayOfYear + era * 146097 := by omega
  have dayOfEra : (eraDay year dayOfYear + era * 146097) % 146097 = eraDay year dayOfYear := by omega
  have eras : (eraDay year dayOfYear + era * 146097) / 146097 = era := by omega
  have ofYear : eraDay year dayOfYear - (365 * year + year / 4 - year / 100) = dayOfYear := by
    rw [eraDay]
    omega
  have ofMonth : dayOfYear - (153 * month + 2) / 5 + 1 = day := by
    rw [dayFromMarch] at number
    omega
  simp only [ofDay, shifted, dayOfEra, eras, yearOfEra, ofYear, found, ofMonth, Int.toNat_natCast]
  by_cases late : month < 10
  · have later : (month : Int) < 10 := by omega
    have counted : ¬ (month : Int) + 3 ≤ 2 := by omega
    simp only [ofMarch, late, later, counted, if_true, if_false]
    congr 1
  · have later : ¬ (month : Int) < 10 := by omega
    have counted : (month : Int) - 9 ≤ 2 := by omega
    simp only [ofMarch, late, later, counted, if_true, if_false]
    congr 1
    omega

/-- The months from March to January have as many days as the day of the year tells. -/
theorem daysInMonth_ofMarch (year : Int) {month : Nat} (range : month < 11) (day : Nat) :
    1 ≤ day ∧ day ≤ daysInMonth year (if month < 10 then month + 3 else month - 9) ↔
      1 ≤ day ∧ (5 * dayFromMarch month day + 2) / 153 = month := by
  have months : month = 0 ∨ month = 1 ∨ month = 2 ∨ month = 3 ∨ month = 4 ∨ month = 5 ∨ month = 6 ∨
      month = 7 ∨ month = 8 ∨ month = 9 ∨ month = 10 := by omega
  rcases months with rfl | rfl | rfl | rfl | rfl | rfl | rfl | rfl | rfl | rfl | rfl <;>
    simp only [daysInMonth, dayFromMarch, Nat.reduceLT, Nat.reduceAdd, Nat.reduceSub, if_true,
      if_false] <;> omega

/-- A date exists when its day belongs to its month and to its year. -/
theorem exists?_ofMarch (year : Int) {month : Nat} (range : month < 12) (day : Nat) :
    (ofMarch year month day).exists? = true ↔
      1 ≤ day ∧ (5 * dayFromMarch month day + 2) / 153 = month ∧
        DayOfEra (year % 400) (dayFromMarch month day) := by
  have leapYear : isLeapYear (year % 400 + 1) = isLeapYear (year + 1) := by
    rw [← isLeapYear_add_eras (year % 400 + 1) (year / 400)]
    congr 1
    omega
  have monthExists : 1 ≤ (ofMarch year month day).month ∧ (ofMarch year month day).month ≤ 12 := by
    simp only [ofMarch]
    split <;> omega
  simp only [exists?, monthExists, decide_true, Bool.true_and, Bool.and_eq_true, decide_eq_true_eq]
  by_cases early : month < 11
  · refine (daysInMonth_ofMarch _ early day).trans (and_congr_right fun positive => ?_)
    refine ⟨fun found => ⟨found, ?_⟩, And.left⟩
    have bounds : 0 ≤ dayFromMarch month day ∧ dayFromMarch month day ≤ 364 := by
      rw [dayFromMarch] at found ⊢
      omega
    exact ⟨by omega, by omega, bounds.1, by omega, by omega⟩
  · cases Nat.eq_of_lt_succ_of_not_lt range early
    simp only [ofMarch, daysInMonth, dayFromMarch, Nat.reduceLT, Nat.reduceSub, if_false]
    constructor
    · rintro ⟨positive, bound⟩
      refine ⟨positive, by split at bound <;> omega, by omega, by omega, by omega,
        by split at bound <;> omega, fun last => ?_⟩
      rw [leapYear]
      by_cases leap : isLeapYear (year + 1) = true
      · exact leap
      · rw [if_neg leap] at bound
        omega
    · rintro ⟨positive, found, -, -, -, bound, leap⟩
      rw [leapYear] at leap
      refine ⟨positive, ?_⟩
      by_cases last : (153 * (11 : Nat) + 2) / 5 + (day : Int) - 1 = 365
      · rw [if_pos (leap last)]
        omega
      · split <;> omega

/-! ## The two directions -/

/-- The date of a day exists and has that day. -/
theorem toDay_ofDay (day : Int) : (ofDay day).toDay = day ∧ (ofDay day).exists? = true := by
  obtain ⟨year, dayOfYear, valid, number⟩ := exists_dayOfEra (e := (day + 719468) % 146097)
    (Int.emod_nonneg _ (by decide)) (Int.emod_lt_of_pos _ (by decide))
  obtain ⟨month, dayOfMonth, range, positive, split, found⟩ : ∃ month dayOfMonth : Nat, month < 12 ∧
      1 ≤ dayOfMonth ∧ dayFromMarch month dayOfMonth = dayOfYear ∧
        (5 * dayOfYear + 2) / 153 = month := by
    have low := valid.day_nonneg
    have high := valid.day_le
    refine ⟨((5 * dayOfYear + 2) / 153).toNat,
      (dayOfYear - (153 * ((5 * dayOfYear + 2) / 153) + 2) / 5 + 1).toNat, ?_⟩
    rw [dayFromMarch]
    omega
  subst split
  have whole : day = (day + 719468) / 146097 * 146097 +
      eraDay year (dayFromMarch month dayOfMonth) - 719468 := by omega
  have date := ofDay_ofMarch ((day + 719468) / 146097) range valid found
  rw [← whole] at date
  have low := valid.year_nonneg
  have high := valid.year_lt
  have yearOfEra : (year + (day + 719468) / 146097 * 400) % 400 = year := by omega
  have eras : (year + (day + 719468) / 146097 * 400) / 400 = (day + 719468) / 146097 := by omega
  rw [date, toDay_ofMarch _ range, exists?_ofMarch _ range, yearOfEra, eras]
  exact ⟨whole.symm, positive, found, valid⟩

/-- A date that exists is the date of its day. -/
theorem ofDay_toDay {date : CivilDate} (valid : date.exists? = true) : ofDay date.toDay = date := by
  obtain ⟨year, month, range, counted⟩ := exists_ofMarch valid
  rw [← counted, exists?_ofMarch _ range] at valid
  rw [← counted, toDay_ofMarch _ range, ofDay_ofMarch _ range valid.2.2 valid.2.1]
  congr 1
  omega

end CivilDate

end RecordStore
