import RecordStore.Codec.Text
import RecordStore.Proofs.Number.Value

/-!
# Integers from stored numbers

The codec of integers cuts a stored number off toward zero. A number whose whole part is no signed word
is not refused but put at the end of the signed words that it lies beyond, so what is decoded is the whole
part of the number exactly if that is a signed word (`Codec.decode_truncated_iff`).
-/

namespace RecordStore

/-! ## Whole numbers and signed words -/

/-- The signed word of a whole number, if there is one. -/
def signedWord? (n : ℤ) : Option Int64 :=
  if -9223372036854775808 ≤ n ∧ n < 9223372036854775808 then some (.ofInt n) else none

theorem ofIntClamp_of_range {n : ℤ} (low : -9223372036854775808 ≤ n) (high : n < 9223372036854775808) :
    Int64.ofIntClamp n = .ofInt n := by
  have inside : (Int64.ofIntClamp n).toInt = n :=
    Int64.toInt_ofIntClamp low (Int.le_of_lt_add_one high)
  rw [← Int64.toInt_inj, inside, Int64.toInt_ofInt_of_le low high]

theorem ofIntClamp_of_ge {n : ℤ} (beyond : 9223372036854775808 ≤ n) :
    Int64.ofIntClamp n = .maxValue := by
  have least : Int64.minValue.toInt = -9223372036854775808 := rfl
  have greatest : Int64.maxValue.toInt = 9223372036854775807 := rfl
  rw [Int64.ofIntClamp, dif_pos (by omega), dif_neg (by omega)]

/-- A whole number is put into the range of the signed words as itself exactly if it is one. -/
theorem signedWord?_eq_ofIntClamp_iff {n : ℤ} :
    signedWord? n = some (.ofIntClamp n) ↔ -9223372036854775808 ≤ n ∧ n < 9223372036854775808 := by
  rw [signedWord?]
  split
  · next range => simp only [ofIntClamp_of_range range.1 range.2, range, and_self]
  · next outside => simp only [reduceCtorEq, outside]

/-! ## Stored numbers -/

/-- The stored values that are numbers, with their values. A double that is not finite has none. -/
inductive StoredValue.IsNumber : StoredValue → Option ℚ → Prop where
  | double (double : Double) : IsNumber (.double double) (double.finite?.map FiniteDouble.value)
  | json (number : JsonNumber) : IsNumber (.json (.number number)) (some number.value)

theorem FiniteDouble.clampedInteger_eq (x : FiniteDouble) :
    x.clampedInteger = .ofIntClamp (towardZero x.value) := by
  rw [clampedInteger, truncate_eq]

/-- An unsigned word beyond the signed ones is rounded to a double before it is put into their range,
which makes no difference. -/
theorem JsonNumber.clampedInteger_eq (number : JsonNumber) :
    number.clampedInteger = some (.ofIntClamp (towardZero number.value)) := by
  cases number with
  | double x => exact congrArg some x.clampedInteger_eq
  | integer n range =>
    have whole : towardZero (integer n range).value = n := towardZero_intCast n
    rw [whole, clampedInteger, int64?]
    split
    · next small => rw [ofIntClamp_of_range range.1 small, Option.some_or]
    · next large =>
      obtain ⟨x, rounded, beyond⟩ := Double.exists_ofInt_ge (Int.not_lt.1 large) range.2
      rw [Option.none_or, toDouble, rounded, ofIntClamp_of_ge (Int.not_lt.1 large),
        ← ofIntClamp_of_ge beyond]
      rfl

theorem StoredValue.IsNumber.isNull_eq {stored : StoredValue} {value : Option ℚ}
    (number : stored.IsNumber value) : stored.isNull = false := by
  cases number <;> rfl

/-- The whole part of a stored number, put into the range of the signed words. -/
theorem StoredValue.IsNumber.integer?_eq {stored : StoredValue} {value : Option ℚ}
    (number : stored.IsNumber value) :
    stored.integer? = value.map fun exact => .ofIntClamp (towardZero exact) := by
  cases number with
  | double double =>
    cases double with
    | finite x => exact congrArg some x.clampedInteger_eq
    | infinite => rfl
    | nan => rfl
  | json number => exact number.clampedInteger_eq

namespace Codec

/-- What the codec of integers answers to a stored value: the signed word found in it, or that there is
none. -/
def integerAnswer (stored : StoredValue) : Option Int64 → Except Error Json
  | some word => .ok (.number (.ofInt64 word))
  | none => .error (.decode .integer stored)

theorem integerAnswer_inj {stored : StoredValue} {first second : Option Int64} :
    integerAnswer stored first = integerAnswer stored second ↔ first = second := by
  refine ⟨fun same => ?_, congrArg _⟩
  cases first with
  | none =>
    cases second with
    | none => rfl
    | some => cases same
  | some word =>
    cases second with
    | none => cases same
    | some other =>
      have equal : word.toInt = other.toInt := by simpa [integerAnswer, JsonNumber.ofInt64] using same
      rw [Int64.toInt_inj.1 equal]

theorem decode_integer_of_present {stored : StoredValue} (present : stored.isNull = false) :
    integer.decode stored = integerAnswer stored stored.integer? := by
  rw [decode, present, if_neg Bool.false_ne_true]
  rfl

/-- What a stored number is decoded as: its whole part, put into the range of the signed words. -/
theorem decode_integer_of_isNumber {stored : StoredValue} {value : Option ℚ}
    (number : stored.IsNumber value) :
    integer.decode stored =
      integerAnswer stored (value.map fun exact => .ofIntClamp (towardZero exact)) := by
  rw [decode_integer_of_present number.isNull_eq, number.integer?_eq]

/-- A stored number is decoded as its whole part, put into the range of the signed words, and refused if
it is not finite. So it is decoded as the signed word that its whole part is, and refused if there is
none, exactly if its whole part is not beyond the signed words. -/
theorem decode_truncated_iff {stored : StoredValue} {value : Option ℚ} (number : stored.IsNumber value) :
    integer.decode stored =
      integerAnswer stored (value.map fun exact => .ofIntClamp (towardZero exact)) ∧
    (integer.decode stored =
        integerAnswer stored (value.bind fun exact => signedWord? (towardZero exact)) ↔
      ∀ exact, value = some exact →
        -9223372036854775808 ≤ towardZero exact ∧ towardZero exact < 9223372036854775808) := by
  have decoded := decode_integer_of_isNumber number
  refine ⟨decoded, ?_⟩
  rw [decoded, integerAnswer_inj, eq_comm]
  cases value with
  | none => exact iff_of_true rfl nofun
  | some exact =>
    simp only [Option.bind_some, Option.map_some, Option.some_inj, forall_eq']
    exact signedWord?_eq_ofIntClamp_iff

/-- The double of the least signed word is decoded as it. -/
theorem decode_truncated_iff_least :
    let stored : StoredValue := .double (.finite ⟨true, 1086, 0⟩)
    stored.IsNumber (some (-9223372036854775808)) ∧
      integer.decode stored = .ok (.number (.ofInt64 .minValue)) := by
  intro stored
  have exact : FiniteDouble.value ⟨true, 1086, 0⟩ = -9223372036854775808 := by decide +kernel
  have number : stored.IsNumber (some (-9223372036854775808)) := by
    rw [← exact]
    exact .double _
  have whole : towardZero (-9223372036854775808) = -9223372036854775808 := towardZero_intCast _
  have fits : ∀ exact : ℚ, some (-9223372036854775808) = some exact →
      -9223372036854775808 ≤ towardZero exact ∧ towardZero exact < 9223372036854775808 := by
    rintro _ ⟨⟩
    rw [whole]
    decide
  have decoded := (decode_truncated_iff number).2.2 fits
  rw [Option.bind_some, whole] at decoded
  exact ⟨number, decoded⟩

/-- The unsigned word after the greatest signed one is decoded as that, and not refused. -/
theorem decode_word_beyond :
    let number : JsonNumber := .integer 9223372036854775808 (by decide)
    let stored : StoredValue := .json (.number number)
    stored.IsNumber (some 9223372036854775808) ∧
      integer.decode stored = .ok (.number (.ofInt64 .maxValue)) ∧
      towardZero 9223372036854775808 ≠ Int64.maxValue.toInt := by
  intro number stored
  have isNumber : stored.IsNumber (some 9223372036854775808) := .json number
  have whole : towardZero 9223372036854775808 = 9223372036854775808 := towardZero_intCast _
  have decoded := decode_integer_of_isNumber isNumber
  rw [Option.map_some, whole] at decoded
  refine ⟨isNumber, decoded, ?_⟩
  rw [whole]
  decide

end Codec

end RecordStore
