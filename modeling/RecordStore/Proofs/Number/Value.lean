import Mathlib.Data.Rat.Floor
import Mathlib.Tactic.Ring
import RecordStore.Json.Basic

/-!
# Exact values of numbers

A finite double and a JSON number stand for a rational number each. Cutting a double off is cutting its
value off toward zero (`FiniteDouble.truncate_eq`). An integer becomes the double of its own value up to
`2 ^ 53` (`Double.exists_ofInt_eq`), and beyond that a double that is no smaller than the greatest power of
two in it (`Double.exists_ofRatio_one_ge`).
-/

namespace RecordStore

/-! ## Cutting off -/

/-- A number cut off toward zero. -/
def towardZero (value : ℚ) : ℤ := if 0 ≤ value then ⌊value⌋ else ⌈value⌉

theorem towardZero_intCast (n : ℤ) : towardZero n = n := by
  rw [towardZero, Int.floor_intCast, Int.ceil_intCast, ite_self]

theorem towardZero_div (numerator denominator : ℕ) :
    towardZero (numerator / denominator) = (numerator / denominator : ℕ) := by
  have notNegative : (0 : ℚ) ≤ numerator / denominator := by positivity
  rw [towardZero, if_pos notNegative, Rat.floor_natCast_div_natCast]
  rfl

theorem towardZero_neg (value : ℚ) : towardZero (-value) = -towardZero value := by
  rcases lt_trichotomy value 0 with below | rfl | above
  · rw [towardZero, towardZero, if_pos (by linarith), if_neg (by linarith), Int.floor_neg]
  · rfl
  · rw [towardZero, towardZero, if_neg (by linarith), if_pos above.le, Int.ceil_neg]

/-! ## Values -/

theorem unitsPerOne_pos : 0 < unitsPerOne := by decide +kernel

namespace FiniteDouble

/-- The exact value of a finite double. -/
def value (x : FiniteDouble) : ℚ := x.signedUnits / unitsPerOne

theorem natAbs_signedUnits (x : FiniteDouble) : x.signedUnits.natAbs = x.units := by
  rw [signedUnits]
  split <;> simp

theorem truncate_eq (x : FiniteDouble) : x.truncate = towardZero x.value := by
  rw [truncate, value, signedUnits]
  split
  · rw [Int.cast_neg, neg_div, towardZero_neg, Int.cast_natCast, towardZero_div]
  · rw [Int.cast_natCast, towardZero_div]

theorem value_eq_intCast_iff {x : FiniteDouble} {n : ℤ} :
    x.value = n ↔ x.signedUnits = n * unitsPerOne := by
  have nonzero : (unitsPerOne : ℚ) ≠ 0 := Nat.cast_ne_zero.2 unitsPerOne_pos.ne'
  rw [value, div_eq_iff nonzero, ← Int.cast_natCast, ← Int.cast_mul, Int.cast_inj]

end FiniteDouble

/-- A double has the value of an integer if it has its sign and its units. -/
theorem FiniteDouble.value_eq_of_units {x : FiniteDouble} {n : ℤ} (sign : x.negative = decide (n < 0))
    (units : x.units = n.natAbs * unitsPerOne) : x.value = n := by
  rw [value_eq_intCast_iff, signedUnits, sign, units, Nat.cast_mul]
  by_cases below : n < 0
  · have magnitude : ((n.natAbs : ℕ) : ℤ) = -n := by omega
    rw [decide_eq_true below, if_pos rfl, magnitude, Int.neg_mul, Int.neg_neg]
  · have magnitude : ((n.natAbs : ℕ) : ℤ) = n := by omega
    rw [decide_eq_false below, if_neg Bool.false_ne_true, magnitude]

/-- The exact value of a JSON number. -/
def JsonNumber.value : JsonNumber → ℚ
  | integer n _ => n
  | double x => x.value

/-! ## Rounding integers -/

theorem roundHalfEven_mul (quotient : ℕ) {denominator : ℕ} (positive : 0 < denominator) :
    roundHalfEven (quotient * denominator) denominator = quotient := by
  rw [roundHalfEven, Nat.mul_div_cancel _ positive, Nat.mul_mod_left, Nat.mul_zero, if_pos positive]

theorem roundHalfEven_range (numerator denominator : ℕ) :
    numerator / denominator ≤ roundHalfEven numerator denominator ∧
      roundHalfEven numerator denominator ≤ numerator / denominator + 1 := by
  simp only [roundHalfEven]
  split_ifs <;> omega

namespace Double

theorem ofOrdinal_eq (negative : Bool) (scale : Fin 2047) (fraction : Fin fractionCount) :
    ofOrdinal negative (scale.val * fractionCount + fraction.val) =
      .finite ⟨negative, scale, fraction⟩ := by
  have place : (scale.val * fractionCount + fraction.val) / fractionCount = scale := by
    rw [Nat.mul_comm, Nat.mul_add_div (by decide), Nat.div_eq_of_lt fraction.isLt, Nat.add_zero]
  have rest : (scale.val * fractionCount + fraction.val) % fractionCount = fraction := by
    rw [Nat.mul_comm, Nat.mul_add_mod, Nat.mod_eq_of_lt fraction.isLt]
  simp only [ofOrdinal, place, rest, scale.isLt, dite_true]

/-- A significand of 53 bits and a shift stand for so many units. The next power of two, where rounding
may lead, is a significand too. -/
theorem exists_ofOrdinal (negative : Bool) {shift significand : ℕ} (low : fractionCount ≤ significand)
    (high : significand ≤ 2 * fractionCount) (range : shift < 2045) :
    ∃ x, ofOrdinal negative (shift * fractionCount + significand) = .finite x ∧
      x.negative = negative ∧ x.units = significand * Nat.pow 2 shift := by
  rcases high.lt_or_eq with below | rfl
  · have written : shift * fractionCount + significand =
        (shift + 1) * fractionCount + (significand - fractionCount) := by
      rw [Nat.succ_mul, Nat.add_assoc, Nat.add_sub_cancel' low]
    have same : fractionCount + (significand - fractionCount) = significand :=
      Nat.add_sub_cancel' low
    rw [written]
    refine ⟨_, ofOrdinal_eq negative ⟨shift + 1, by omega⟩ ⟨significand - fractionCount, by omega⟩,
      rfl, ?_⟩
    rw [FiniteDouble.units, if_neg (Nat.succ_ne_zero shift), same]
    rfl
  · have written : shift * fractionCount + 2 * fractionCount = (shift + 2) * fractionCount + 0 := by
      ring
    have doubled : Nat.pow 2 (shift + 1) = Nat.pow 2 shift * 2 := rfl
    rw [written]
    refine ⟨_, ofOrdinal_eq negative ⟨shift + 2, by omega⟩ ⟨0, by decide⟩, rfl, ?_⟩
    rw [FiniteDouble.units, if_neg (Nat.succ_ne_zero _)]
    show (fractionCount + 0) * Nat.pow 2 (shift + 1) = _
    rw [doubled]
    ring

theorem twoPow_mul (first second : ℕ) :
    Nat.pow 2 first * Nat.pow 2 second = Nat.pow 2 (first + second) :=
  (Nat.pow_add 2 first second).symm

-- The exponent is a variable of its own, so that nothing computes the power.
theorem exists_unitsPerOne_eq : ∃ exponent, exponent = 1074 ∧ unitsPerOne = Nat.pow 2 exponent :=
  ⟨1074, rfl, by decide +kernel⟩

theorem unitsPerOne_mul (exponent : ℕ) :
    Nat.pow 2 exponent * unitsPerOne = Nat.pow 2 (exponent + 1074) := by
  obtain ⟨places, same, units⟩ := exists_unitsPerOne_eq
  rw [units, twoPow_mul, same]

theorem fractionCount_mul (exponent : ℕ) :
    fractionCount * Nat.pow 2 exponent = Nat.pow 2 (52 + exponent) :=
  twoPow_mul 52 exponent

theorem log2_mul_unitsPerOne {n : ℕ} (positive : 0 < n) :
    (n * unitsPerOne).log2 = n.log2 + 1074 := by
  have least : Nat.pow 2 n.log2 ≤ n := Nat.log2_self_le positive.ne'
  have greatest : n < Nat.pow 2 (n.log2 + 1) := Nat.lt_log2_self
  refine (Nat.log2_eq_iff (Nat.mul_pos positive unitsPerOne_pos).ne').2 ⟨?_, ?_⟩
  · show Nat.pow 2 (n.log2 + 1074) ≤ _
    rw [← unitsPerOne_mul]
    exact Nat.mul_le_mul_right _ least
  · show _ < Nat.pow 2 (n.log2 + 1074 + 1)
    rw [Nat.add_right_comm, ← unitsPerOne_mul]
    exact Nat.mul_lt_mul_of_pos_right greatest unitsPerOne_pos

/-- The significand of an integer has 53 bits before it is rounded. -/
theorem significand_range {n : ℕ} (positive : 0 < n) :
    fractionCount ≤ n * unitsPerOne / Nat.pow 2 (n.log2 + 1022) ∧
      n * unitsPerOne / Nat.pow 2 (n.log2 + 1022) < 2 * fractionCount := by
  have power : 0 < Nat.pow 2 (n.log2 + 1022) := Nat.two_pow_pos _
  have places : 52 + (n.log2 + 1022) = n.log2 + 1074 := by omega
  have nonzero : n * unitsPerOne ≠ 0 := (Nat.mul_pos positive unitsPerOne_pos).ne'
  have least : Nat.pow 2 (n * unitsPerOne).log2 ≤ n * unitsPerOne := Nat.log2_self_le nonzero
  have greatest : n * unitsPerOne < Nat.pow 2 ((n * unitsPerOne).log2 + 1) := Nat.lt_log2_self
  rw [log2_mul_unitsPerOne positive] at least greatest
  constructor
  · rw [Nat.le_div_iff_mul_le power, fractionCount_mul, places]
    exact least
  · rw [Nat.div_lt_iff_lt_mul power, Nat.mul_assoc, fractionCount_mul, places, Nat.mul_comm 2,
      ← twoPow_mul _ 1]
    exact greatest

/-- A positive integer is rounded to a multiple of the gap at its greatest power of two. -/
theorem exists_ofRatio_one (negative : Bool) {n : ℕ} (positive : 0 < n) (small : n.log2 ≤ 1022) :
    ∃ x, ofRatio negative n 1 = .finite x ∧ x.negative = negative ∧
      x.units = roundHalfEven (n * unitsPerOne) (Nat.pow 2 (n.log2 + 1022)) *
        Nat.pow 2 (n.log2 + 1022) := by
  obtain ⟨low, high⟩ := significand_range positive
  obtain ⟨floor, ceil⟩ :=
    roundHalfEven_range (n * unitsPerOne) (Nat.pow 2 (n.log2 + 1022))
  have shift : (n * unitsPerOne / 1).log2 - 52 = n.log2 + 1022 := by
    rw [Nat.div_one, log2_mul_unitsPerOne positive]
    rfl
  simp only [ofRatio, shift, Nat.one_mul]
  exact exists_ofOrdinal negative (low.trans floor) (by omega) (by omega)

/-- No integer is rounded below its greatest power of two. -/
theorem exists_ofRatio_one_ge (negative : Bool) {n : ℕ} (positive : 0 < n) (small : n.log2 ≤ 1022) :
    ∃ x, ofRatio negative n 1 = .finite x ∧ x.negative = negative ∧
      Nat.pow 2 n.log2 * unitsPerOne ≤ x.units := by
  obtain ⟨x, rounded, sign, units⟩ := exists_ofRatio_one negative positive small
  have least : fractionCount ≤
      roundHalfEven (n * unitsPerOne) (Nat.pow 2 (n.log2 + 1022)) :=
    (significand_range positive).1.trans (roundHalfEven_range _ _).1
  have power : Nat.pow 2 n.log2 * unitsPerOne = fractionCount * Nat.pow 2 (n.log2 + 1022) := by
    rw [unitsPerOne_mul, fractionCount_mul, show 52 + (n.log2 + 1022) = n.log2 + 1074 by omega]
  refine ⟨x, rounded, sign, ?_⟩
  rw [units, power]
  exact Nat.mul_le_mul_right _ least

/-- Integers of at most 53 bits are not rounded. -/
theorem exists_ofRatio_one_eq (negative : Bool) {n : ℕ} (small : n < 2 * fractionCount) :
    ∃ x, ofRatio negative n 1 = .finite x ∧ x.negative = negative ∧ x.units = n * unitsPerOne := by
  rcases n.eq_zero_or_pos with rfl | positive
  · refine ⟨.zero negative, ?_, rfl, ?_⟩
    · simp only [ofRatio, Nat.zero_mul]
      rfl
    · rw [FiniteDouble.units_zero, Nat.zero_mul]
  have places : n.log2 < 53 := (Nat.log2_lt positive.ne').2 small
  obtain ⟨x, rounded, sign, units⟩ := exists_ofRatio_one negative positive (by omega)
  have exact : n * unitsPerOne = n * Nat.pow 2 (52 - n.log2) * Nat.pow 2 (n.log2 + 1022) := by
    have power : Nat.pow 2 (52 - n.log2) * Nat.pow 2 (n.log2 + 1022) = unitsPerOne := by
      obtain ⟨exponent, same, units⟩ := exists_unitsPerOne_eq
      rw [twoPow_mul, units, show 52 - n.log2 + (n.log2 + 1022) = exponent by omega]
    rw [Nat.mul_assoc, power]
  have kept := roundHalfEven_mul (n * Nat.pow 2 (52 - n.log2)) (Nat.two_pow_pos (n.log2 + 1022))
  refine ⟨x, rounded, sign, ?_⟩
  rw [units, exact]
  exact congrArg (· * Nat.pow 2 (n.log2 + 1022)) kept

/-- An integer of at most 53 bits is the value of its double. -/
theorem exists_ofInt_eq {n : ℤ} (small : n.natAbs < 2 * fractionCount) :
    ∃ x, ofInt n = .finite x ∧ x.value = n := by
  obtain ⟨x, rounded, sign, units⟩ := exists_ofRatio_one_eq (decide (n < 0)) small
  exact ⟨x, rounded, FiniteDouble.value_eq_of_units sign units⟩

/-- The double of an integer beyond the signed words is beyond them too. -/
theorem exists_ofInt_ge {n : ℤ} (low : 9223372036854775808 ≤ n) (high : n < 18446744073709551616) :
    ∃ x, ofInt n = .finite x ∧ 9223372036854775808 ≤ x.truncate := by
  have places : n.natAbs.log2 = 63 :=
    (Nat.log2_eq_iff (by omega)).2 ⟨by omega, by omega⟩
  obtain ⟨x, rounded, sign, units⟩ :=
    exists_ofRatio_one_ge (decide (n < 0)) (show 0 < n.natAbs by omega) (by omega)
  have whole : Nat.pow 2 n.natAbs.log2 ≤ x.units / unitsPerOne :=
    (Nat.le_div_iff_mul_le unitsPerOne_pos).2 units
  rw [places] at whole
  refine ⟨x, rounded, ?_⟩
  rw [FiniteDouble.truncate, sign, decide_eq_false (by omega), if_neg Bool.false_ne_true]
  exact_mod_cast whole

end Double

end RecordStore
