import RecordStore.Number.Reader
import RecordStore.Proofs.Number.Value
import RecordStore.Proofs.Text.Blank

/-!
# Doubles from the text of integers

The decimal text of an integer of at most 53 bits is read as the double of its value
(`Double.exists_ofText?_signedDigits`), and blanks around it are all that is trimmed (`trim_signedDigits`).
-/

namespace RecordStore

open Text

/-! ## Digits -/

theorem toLower_of_isDigit {c : Char} (digit : c.isDigit = true) : c.toLower = c := by
  have range := toNat_of_isDigit digit
  refine dif_neg ?_
  rintro ⟨capital, -⟩
  have least : 65 ≤ c.toNat := UInt32.le_iff_toNat_le.1 capital
  omega

namespace Double

/-- What begins with a digit is none of the words for infinity and NaN. -/
theorem unsigned?_of_isDigit (negative : Bool) {c : Char} (digit : c.isDigit = true)
    (rest : List Char) :
    unsigned? negative (c :: rest) = (decimalText? (c :: rest)).map fun d =>
      ofDecimal negative (ofDigits (d.whole ++ d.fraction)) (d.exponent - d.fraction.length) := by
  have noWord {word : String} {first : Char} {more : List Char} (spelled : word.toList = first :: more)
      (letter : first.isDigit = false) : String.ofList ((c :: rest).map Char.toLower) ≠ word := by
    rintro rfl
    rw [String.toList_ofList, List.map_cons, toLower_of_isDigit digit] at spelled
    rw [(List.cons.inj spelled).1, letter] at digit
    cases digit
  unfold unsigned?
  split
  · next same => exact absurd same (noWord rfl rfl)
  · next same => exact absurd same (noWord rfl rfl)
  · next same => exact absurd same (noWord rfl rfl)
  · rfl

theorem decimalText?_digits (n : ℕ) : decimalText? (digits n) = some ⟨digits n, [], 0⟩ := by
  have whole : leadingDigits (digits n) = digits n := by
    simpa using leadingDigits_digits n noDigitNext_nil
  have nothing : afterDigits (digits n) = [] := by
    simpa using afterDigits_digits n noDigitNext_nil
  have nonempty : (digits n).isEmpty = false := List.isEmpty_eq_false_iff.2 (digits_ne_nil n)
  simp [decimalText?, whole, nothing, nonempty]

/-- An integer of at most 53 bits has so few digits that its power of ten is one. -/
theorem exists_ofDecimal_eq (negative : Bool) {n : ℕ} (small : n < 2 * fractionCount) :
    ∃ x, ofDecimal negative n 0 = .finite x ∧ x.negative = negative ∧ x.units = n * unitsPerOne := by
  by_cases zero : n = 0
  · subst zero
    exact ⟨.zero negative, rfl, rfl, by rw [FiniteDouble.units_zero, Nat.zero_mul]⟩
  have short : (Nat.toDigits 10 n).length ≤ 16 :=
    (Nat.length_toDigits_le_iff (by decide) (by decide)).2 (small.trans (by decide))
  have ratio : ofDecimal negative n 0 = ofRatio negative n 1 := by
    have power : n * Nat.pow 10 (0 : ℤ).toNat = n := Nat.mul_one n
    simp only [ofDecimal, power]
    rw [if_neg (by omega), if_neg (by omega), if_pos (Int.le_refl 0)]
  rw [ratio]
  exact exists_ofRatio_one_eq negative small

theorem exists_unsigned?_digits (negative : Bool) {n : ℕ} (small : n < 2 * fractionCount) :
    ∃ x, unsigned? negative (digits n) = some (.finite x) ∧ x.negative = negative ∧
      x.units = n * unitsPerOne := by
  obtain ⟨x, read, sign, units⟩ := exists_ofDecimal_eq negative small
  obtain ⟨c, run, begins, digit⟩ := exists_digits_eq_cons_isDigit n
  refine ⟨x, ?_, sign, units⟩
  rw [begins, unsigned?_of_isDigit negative digit, ← begins, decimalText?_digits]
  simp [ofDigits_digits, read]

/-- An integer of at most 53 bits is read from its decimal text as the double of its value. -/
theorem exists_ofText?_signedDigits {n : ℤ} (small : n.natAbs < 2 * fractionCount) :
    ∃ x, ofText? (signedDigits n) = some (.finite x) ∧ x.value = n := by
  obtain ⟨x, read, sign, units⟩ := exists_unsigned?_digits (decide (n < 0)) small
  refine ⟨x, ?_, FiniteDouble.value_eq_of_units sign units⟩
  rw [signedDigits]
  by_cases below : n < 0
  · rw [decide_eq_true below] at read
    rw [if_pos below]
    exact read
  · rw [decide_eq_false below] at read
    rw [if_neg below]
    obtain ⟨c, run, begins, digit⟩ := exists_digits_eq_cons_isDigit n.natAbs
    rw [begins] at read ⊢
    rw [ofText?]
    · exact read
    · rintro _ ⟨⟩
      cases digit
    · rintro _ ⟨⟩
      cases digit

end Double

/-- Blanks around the decimal text of an integer are all that is trimmed. -/
theorem trim_signedDigits {before after : List Char} (blankBefore : ∀ c ∈ before, isBlank c = true)
    (blankAfter : ∀ c ∈ after, isBlank c = true) (n : ℤ) :
    trim (before ++ signedDigits n ++ after) = signedDigits n := by
  have solid : ∀ c ∈ signedDigits n, isBlank c = false := by
    intro c member
    rw [signedDigits] at member
    split at member
    · rcases List.mem_cons.1 member with rfl | digit
      · decide
      · exact isBlank_of_isDigit (isDigit_of_mem_digits digit)
    · exact isBlank_of_isDigit (isDigit_of_mem_digits member)
  rw [trim_append_blanks blankBefore blankAfter]
  exact trim_of_ends (fun c head => solid c (List.mem_of_mem_head? head))
    (fun c last => solid c (List.mem_of_getLast? last))

end RecordStore
