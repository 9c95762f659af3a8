import RecordStore.Proofs.Codec.LeadingInteger
import RecordStore.Proofs.Codec.Truncation
import RecordStore.Proofs.Number.Reader

/-!
# Numbers from every kind of stored value

An integer up to `2 ^ 53 - 1` is decoded as the same JSON integer whether it is stored as an integer, as a
double, as a JSON number or as text, by the codec of integers and by that of numbers. The codec of numbers
keeps the value of every finite double (`Codec.decode_numbers_alike`).
-/

namespace RecordStore

open Text

/-! ## Integers that a double tells apart -/

/-- An integer that a double tells from its neighbours. -/
structure SafeInteger where
  toInt : ℤ
  bound : toInt.natAbs ≤ maxSafeInteger

namespace SafeInteger

theorem range (n : SafeInteger) : -9007199254740991 ≤ n.toInt ∧ n.toInt ≤ 9007199254740991 := by
  have bound : n.toInt.natAbs ≤ 9007199254740991 := n.bound
  omega

/-- The integer as a JSON number. -/
def toNumber (n : SafeInteger) : JsonNumber :=
  .integer n.toInt ⟨by have := n.range; omega, by have := n.range; omega⟩

theorem ofInt64_ofInt (n : SafeInteger) : JsonNumber.ofInt64 (.ofInt n.toInt) = n.toNumber := by
  have bounds := n.range
  have kept : (Int64.ofInt n.toInt).toInt = n.toInt :=
    Int64.toInt_ofInt_of_le (by omega) (by omega)
  simp only [JsonNumber.ofInt64, toNumber, kept]

theorem natAbs_lt (n : SafeInteger) : n.toInt.natAbs < 2 * fractionCount :=
  Nat.lt_of_le_of_lt n.bound (by decide)

end SafeInteger

namespace FiniteDouble

theorem units_of_value {x : FiniteDouble} {n : ℤ} (same : x.value = n) :
    x.units = n.natAbs * unitsPerOne := by
  rw [← natAbs_signedUnits, value_eq_intCast_iff.1 same, Int.natAbs_mul, Int.natAbs_natCast]

/-- The doubles that become JSON integers are those with the value of an integer that a double tells from
its neighbours. -/
theorem isSafeInteger_iff {x : FiniteDouble} :
    x.isSafeInteger = true ↔ ∃ n : SafeInteger, x.value = n.toInt := by
  rw [isSafeInteger, isWhole, Bool.and_eq_true, beq_iff_eq, decide_eq_true_iff]
  constructor
  · rintro ⟨whole, small⟩
    have divides : (unitsPerOne : ℤ) ∣ x.signedUnits := by
      rw [Int.natCast_dvd, natAbs_signedUnits]
      exact Nat.dvd_of_mod_eq_zero whole
    obtain ⟨n, product⟩ := divides
    have same : x.value = n := value_eq_intCast_iff.2 (product.trans (Int.mul_comm _ _))
    rw [units_of_value same] at small
    exact ⟨⟨n, Nat.le_of_mul_le_mul_right small unitsPerOne_pos⟩, same⟩
  · rintro ⟨n, same⟩
    rw [units_of_value same]
    exact ⟨Nat.mul_mod_left _ _, Nat.mul_le_mul_right _ n.bound⟩

theorem toJson_of_value {x : FiniteDouble} {n : SafeInteger} (same : x.value = n.toInt) :
    x.toJson = .number n.toNumber := by
  have bounds := n.range
  have word : x.clampedInteger = .ofInt n.toInt := by
    rw [clampedInteger_eq, same, towardZero_intCast, ofIntClamp_of_range (by omega) (by omega)]
  rw [toJson, if_pos (isSafeInteger_iff.2 ⟨n, same⟩), word, n.ofInt64_ofInt]

theorem toJson_of_forall_ne {x : FiniteDouble} (other : ∀ n : SafeInteger, x.value ≠ n.toInt) :
    x.toJson = .number (.double x) := by
  rw [toJson, if_neg fun safe => ?_]
  obtain ⟨n, same⟩ := isSafeInteger_iff.1 safe
  exact other n same

/-- The JSON number of a double has its value. -/
theorem exists_toJson_eq (x : FiniteDouble) :
    ∃ decoded : JsonNumber, x.toJson = .number decoded ∧ decoded.value = x.value := by
  by_cases safe : ∃ n : SafeInteger, x.value = n.toInt
  · obtain ⟨n, same⟩ := safe
    exact ⟨_, toJson_of_value same, same.symm⟩
  · exact ⟨_, toJson_of_forall_ne fun n same => safe ⟨n, same⟩, rfl⟩

end FiniteDouble

/-! ## Stored integers -/

/-- A text is the decimal text of an integer with blanks around it or none. -/
def WritesInteger (text : String) (n : ℤ) : Prop :=
  ∃ before after, (∀ c ∈ before, isBlank c = true) ∧ (∀ c ∈ after, isBlank c = true) ∧
    text = String.ofList (before ++ signedDigits n ++ after)

/-- The stored values that hold an integer: itself, the double and the JSON numbers of its value, and its
text, also as JSON. -/
inductive StoredValue.HoldsInteger (n : ℤ) : StoredValue → Prop where
  | integer {word : Int64} (same : word.toInt = n) : HoldsInteger n (.integer word)
  | number {stored : StoredValue} (number : stored.IsNumber (some n)) : HoldsInteger n stored
  | string {text : String} (written : WritesInteger text n) : HoldsInteger n (.string text)
  | json {text : String} (written : WritesInteger text n) : HoldsInteger n (.json (.string text))

theorem WritesInteger.begins {text : String} {n : ℤ} (written : WritesInteger text n) :
    BeginsWithInteger text n := by
  obtain ⟨before, after, blankBefore, blankAfter, rfl⟩ := written
  have longest : NoDigitNext after := by
    intro c head
    cases digit : c.isDigit with
    | false => rfl
    | true =>
      have blank := blankAfter c (List.mem_of_mem_head? head)
      rw [isBlank_of_isDigit digit] at blank
      cases blank
  rw [List.append_assoc]
  exact beginsWithInteger_of_signedDigits n blankBefore longest

theorem WritesInteger.exists_ofText? {text : String} {n : SafeInteger}
    (written : WritesInteger text n.toInt) :
    ∃ x, Double.ofText? (trim text.toList) = some (.finite x) ∧ x.value = n.toInt := by
  obtain ⟨before, after, blankBefore, blankAfter, rfl⟩ := written
  rw [String.toList_ofList, trim_signedDigits blankBefore blankAfter]
  exact Double.exists_ofText?_signedDigits n.natAbs_lt

/-- A JSON number with the value of an integer that doubles tell apart is that as a double too. -/
theorem JsonNumber.exists_toDouble_eq {number : JsonNumber} {n : SafeInteger}
    (same : number.value = n.toInt) : ∃ x, number.toDouble = .finite x ∧ x.value = n.toInt := by
  cases number with
  | double x => exact ⟨x, rfl, same⟩
  | integer m range =>
    have equal : m = n.toInt := Int.cast_injective same
    subst equal
    exact Double.exists_ofInt_eq n.natAbs_lt

namespace StoredValue

theorem number?_of_double? {stored : StoredValue} {x : FiniteDouble}
    (read : stored.double? = some (.finite x)) : stored.number? = some x.toJson := by
  cases stored with
  | integer => cases read
  | _ =>
    simp only [number?, read]
    rfl

variable {stored : StoredValue} {n : SafeInteger}

theorem IsNumber.exists_double? (number : stored.IsNumber (some n.toInt)) :
    ∃ x, stored.double? = some (.finite x) ∧ x.value = n.toInt := by
  generalize same : some (n.toInt : ℚ) = value at number
  cases number with
  | double double =>
    cases double with
    | finite x => exact ⟨x, rfl, (Option.some_inj.1 same).symm⟩
    | infinite => cases same
    | nan => cases same
  | json number =>
    obtain ⟨x, rounded, equal⟩ := number.exists_toDouble_eq (Option.some_inj.1 same).symm
    exact ⟨x, congrArg some rounded, equal⟩

/-- Only an integer that is stored as such is read without a double. -/
theorem HoldsInteger.eq_or_exists_double? (holds : stored.HoldsInteger n.toInt) :
    stored = .integer (.ofInt n.toInt) ∨
      ∃ x, stored.double? = some (.finite x) ∧ x.value = n.toInt := by
  cases holds with
  | integer same => exact .inl (by rw [← same, Int64.ofInt_toInt])
  | number number => exact .inr number.exists_double?
  | string written => exact .inr written.exists_ofText?
  | json written => exact .inr written.exists_ofText?

theorem HoldsInteger.number?_eq (holds : stored.HoldsInteger n.toInt) :
    stored.number? = some (.number n.toNumber) := by
  rcases holds.eq_or_exists_double? with rfl | ⟨x, read, same⟩
  · rw [number?, n.ofInt64_ofInt]
  · rw [number?_of_double? read, FiniteDouble.toJson_of_value same]

theorem HoldsInteger.isNull_eq (holds : stored.HoldsInteger n.toInt) : stored.isNull = false := by
  cases holds with
  | number number => exact number.isNull_eq
  | integer | string | json => rfl

end StoredValue

/-! ## Decoding -/

namespace Codec

theorem decode_number_of_present {stored : StoredValue} (present : stored.isNull = false) :
    number.decode stored =
      match stored.number? with
      | some number => .ok number
      | none => .error (.decode .number stored) := by
  rw [decode, present, if_neg Bool.false_ne_true]
  rfl

theorem decode_number_of_holds {stored : StoredValue} {n : SafeInteger}
    (holds : stored.HoldsInteger n.toInt) : number.decode stored = .ok (.number n.toNumber) := by
  rw [decode_number_of_present holds.isNull_eq, holds.number?_eq]

theorem decode_integer_of_holds {stored : StoredValue} {n : SafeInteger}
    (holds : stored.HoldsInteger n.toInt) : integer.decode stored = .ok (.number n.toNumber) := by
  have bounds := n.range
  have word : -9223372036854775808 < n.toInt ∧ n.toInt < 9223372036854775808 := by omega
  cases holds with
  | @integer word same =>
    rw [← n.ofInt64_ofInt, ← same, Int64.ofInt_toInt]
    rfl
  | number number =>
    rw [decode_integer_of_isNumber number, Option.map_some, towardZero_intCast,
      ofIntClamp_of_range word.1.le word.2, ← n.ofInt64_ofInt]
    rfl
  | string written =>
    rw [decode_integer_of_begins (.inl rfl) written.begins, if_pos word, n.ofInt64_ofInt]
  | json written =>
    rw [decode_integer_of_begins (.inr rfl) written.begins, if_pos word, n.ofInt64_ofInt]

/-- An integer up to `2 ^ 53 - 1` is decoded as the same JSON integer from every stored value that holds
it, a double of its value among them, by both codecs. The codec of numbers decodes every finite double as
a JSON number of its value, an integer where a double tells it from its neighbours and the double itself
otherwise, and refuses the doubles that are not finite. -/
theorem decode_numbers_alike :
    (∀ (n : SafeInteger) (stored : StoredValue), stored.HoldsInteger n.toInt →
      integer.decode stored = .ok (.number n.toNumber) ∧
      number.decode stored = .ok (.number n.toNumber)) ∧
    (∀ n : SafeInteger, ∃ x, (StoredValue.double (.finite x)).HoldsInteger n.toInt) ∧
    (∀ x : FiniteDouble, ∃ decoded : JsonNumber,
      number.decode (.double (.finite x)) = .ok (.number decoded) ∧ decoded.value = x.value ∧
      (∀ n : SafeInteger, x.value = n.toInt → decoded = n.toNumber) ∧
      ((∀ n : SafeInteger, x.value ≠ n.toInt) → decoded = .double x)) ∧
    ∀ double : Double, double.finite? = none →
      number.decode (.double double) = .error (.decode .number (.double double)) := by
  refine ⟨fun n stored holds => ⟨decode_integer_of_holds holds, decode_number_of_holds holds⟩,
    fun n => ?_, fun x => ?_, fun double infinite => ?_⟩
  · obtain ⟨x, -, same⟩ := Double.exists_ofInt_eq n.natAbs_lt
    have number : (StoredValue.double (.finite x)).IsNumber (some n.toInt) := by
      rw [← same]
      exact .double _
    exact ⟨x, .number number⟩
  · have decoded : number.decode (.double (.finite x)) = .ok x.toJson := by
      rw [decode_number_of_present rfl, StoredValue.number?_of_double? rfl]
    obtain ⟨result, same, value⟩ := x.exists_toJson_eq
    rw [same] at decoded
    refine ⟨result, decoded, value, fun n exact => ?_, fun other => ?_⟩
    · exact Json.number.inj (same.symm.trans (FiniteDouble.toJson_of_value exact))
    · exact Json.number.inj (same.symm.trans (FiniteDouble.toJson_of_forall_ne other))
  · cases double with
    | finite => cases infinite
    | infinite => rfl
    | nan => rfl

/-- The least such integer in JSON text after a space that does not break. -/
theorem decode_numbers_alike_least :
    let stored : StoredValue := .json (.string "\u00a0-9007199254740991\n")
    stored.HoldsInteger (-9007199254740991) ∧
      integer.decode stored = number.decode stored ∧
      number.decode stored = .ok (.number (.integer (-9007199254740991) (by decide))) := by
  intro stored
  let n : SafeInteger := ⟨-9007199254740991, by decide⟩
  have written : WritesInteger "\u00a0-9007199254740991\n" n.toInt :=
    ⟨['\u00a0'], ['\n'], List.all_eq_true.1 (by decide), List.all_eq_true.1 (by decide), by decide⟩
  obtain ⟨integers, numbers⟩ := decode_numbers_alike.1 n stored (.json written)
  exact ⟨.json written, integers.trans numbers.symm, numbers⟩

end Codec

end RecordStore
