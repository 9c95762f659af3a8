import RecordStore.Codec.Registry
import RecordStore.Proofs.Json.Text
import RecordStore.Proofs.Time.Text

/-!
# Values and their codecs

Every built-in type has values that it allows, and the default registry reads such a value back from
what it stores for it (`CodecRegistry.decode_encode`): text as it was written, numbers with their kind,
timestamps in their normal form, and arrays and objects through their text.
-/

namespace RecordStore

open Text

/-! ## Timestamps in normal form -/

/-- A run of so many decimal digits. -/
def IsRun (width : Nat) (run : List Char) : Prop :=
  run.length = width ∧ ∀ c ∈ run, c.isDigit = true

-- Instance search would decide the second part over all characters, not over those of the run.
instance (width : Nat) (run : List Char) : Decidable (IsRun width run) :=
  decidable_of_iff (run.length = width ∧ run.all Char.isDigit = true) (by rw [List.all_eq_true, IsRun])

/-- A text `YYYY-MM-DDTHH:MM:SS.mmmZ` of a date and time of day that exist, leap seconds apart. -/
inductive IsNormalTimestamp : String → Prop where
  | mk {year month day hour minute second millis : List Char} (yearRun : IsRun 4 year)
    (monthRun : IsRun 2 month) (dayRun : IsRun 2 day) (hourRun : IsRun 2 hour)
    (minuteRun : IsRun 2 minute) (secondRun : IsRun 2 second) (millisRun : IsRun 3 millis)
    (date : CivilDate.exists? ⟨ofDigits year, ofDigits month, ofDigits day⟩ = true)
    (time : ofDigits hour ≤ 23 ∧ ofDigits minute ≤ 59 ∧ ofDigits second ≤ 59) :
    IsNormalTimestamp (String.ofList (year ++ '-' :: month ++ '-' :: day ++ 'T' :: hour ++
      ':' :: minute ++ ':' :: second ++ '.' :: millis ++ ['Z']))

theorem IsRun.paddedDigits {width : Nat} {run : List Char} (digits : IsRun (width + 1) run) :
    paddedDigits (width + 1) (ofDigits run) = run := by
  obtain ⟨length, digits⟩ := digits
  have nonempty : run ≠ [] := by
    rintro rfl
    cases length
  rw [← length]
  exact paddedDigits_ofDigits nonempty digits

theorem IsRun.ofDigits_lt {width : Nat} {run : List Char} (digits : IsRun width run) :
    ofDigits run < Nat.pow 10 width := digits.1 ▸ Text.ofDigits_lt digits.2

/-- A timestamp in normal form is read as an instant with this normal form. -/
theorem IsNormalTimestamp.exists_ofStored? {text : String} (normal : IsNormalTimestamp text) :
    ∃ instant, Instant.ofStored? text = some instant ∧ instant.toIsoText = text := by
  cases normal with
  | @mk year month day hour minute second millis yearRun monthRun dayRun hourRun minuteRun secondRun
      millisRun date time =>
    have years : ofDigits year < 10000 := yearRun.ofDigits_lt
    have fraction : ofDigits millis < 1000 := millisRun.ofDigits_lt
    have clock : ClockTime.exists?
        ⟨ofDigits hour, ofDigits minute, ofDigits second, ofDigits millis * 1000000⟩ = true :=
      (ClockTime.exists?_iff _).2 ⟨by dsimp only; omega, by dsimp only; omega⟩
    have found := Instant.exists_ofStored?_toIsoText date (by simp only []; omega) clock
    have sameYear : ((ofDigits year : Nat) : Int).toNat = ofDigits year := Int.toNat_natCast _
    have short : (0 : Int) ≤ ofDigits year ∧ (ofDigits year : Int) ≤ 9999 := by omega
    simpa only [CivilDate.text, ClockTime.text, SecondFraction.text, short, and_self, if_true,
      sameYear, yearRun.paddedDigits, monthRun.paddedDigits, dayRun.paddedDigits,
      hourRun.paddedDigits, minuteRun.paddedDigits, secondRun.paddedDigits, millisRun.paddedDigits,
      Nat.mul_div_cancel _ (show 0 < 1000000 by decide), List.append_assoc, List.cons_append] using found

/-! ## Values of a type -/

/-- A double that is told from every integer: it has a fraction, or is so large that doubles do not
tell integers apart. -/
def FiniteDouble.IsFloating (x : FiniteDouble) : Prop :=
  x.isWhole = false ∨ maxSafeInteger * unitsPerOne < x.units

/-- The values of a type in records. A type of a registry of one's own allows none. -/
def PropertyType.Allows (value : Json) : PropertyType → Prop
  | uniqueId | text | bigText | email | modelReference => ∃ text, value = .string text
  | integer => ∃ integer, value = .number (.ofInt64 integer)
  | number =>
    (∃ integer, value = .number (.ofInt64 integer)) ∨
      ∃ x : FiniteDouble, x.IsFloating ∧ value = .number (.double x)
  | boolean => ∃ truth, value = .bool truth
  | date | datetime => ∃ text, IsNormalTimestamp text ∧ value = .string text
  | object | array =>
    ((∃ items, value = .array items) ∨ ∃ fields, value = .object fields) ∧ value.Fits Json.maxDepth
  | custom _ => False

/-- The types whose values are dates. -/
def PropertyType.IsDate (type : PropertyType) : Prop := type = date ∨ type = datetime

theorem PropertyType.codecFor_of_isDate {type : PropertyType} (dated : type.IsDate) :
    CodecRegistry.default.codecFor type = Codec.date := by
  rcases dated with rfl | rfl <;> rfl

/-- Text that is a timestamp is stored as its instant. -/
theorem CodecRegistry.encode_timestamp {type : PropertyType} (dated : type.IsDate) {text : String}
    {instant : Instant} (read : Instant.ofStored? text = some instant) :
    CodecRegistry.default.encode type (.string text) = .instant instant := by
  simp only [CodecRegistry.encode, PropertyType.codecFor_of_isDate dated, Codec.date, read]

theorem JsonNumber.int64?_ofInt64 (integer : Int64) :
    (JsonNumber.ofInt64 integer).int64? = some integer := by
  have bound : integer.toInt < 9223372036854775808 := integer.toInt_lt
  rw [ofInt64, int64?, if_pos bound, Int64.ofInt_toInt]

namespace Codec

theorem encodeByKind_ofInt64 (integer : Int64) :
    encodeByKind (.number (.ofInt64 integer)) = .integer integer := by
  rw [encodeByKind, JsonNumber.int64?_ofInt64]

theorem decode_text (value : String) : text.decode (text.encode (.string value)) = .ok (.string value) :=
  rfl

theorem decode_integer (value : Int64) :
    integer.decode (integer.encode (.number (.ofInt64 value))) = .ok (.number (.ofInt64 value)) := by
  have stored : integer.encode (.number (.ofInt64 value)) = .integer value :=
    encodeByKind_ofInt64 value
  rw [stored]
  rfl

theorem decode_number (value : Int64) :
    number.decode (number.encode (.number (.ofInt64 value))) = .ok (.number (.ofInt64 value)) := by
  have stored : number.encode (.number (.ofInt64 value)) = .integer value :=
    encodeByKind_ofInt64 value
  rw [stored]
  rfl

/-- A double that no integer stands for is read back as it is. -/
theorem decode_number_double {x : FiniteDouble} (floating : x.IsFloating) :
    number.decode (number.encode (.number (.double x))) = .ok (.number (.double x)) := by
  have notSafe : x.isSafeInteger = false := by
    rw [FiniteDouble.isSafeInteger]
    rcases floating with fraction | large
    · rw [fraction, Bool.false_and]
    · rw [decide_eq_false (Nat.not_le.2 large), Bool.and_false]
  have stored : number.encode (.number (.double x)) = .double (.finite x) := rfl
  have read : (StoredValue.double (.finite x)).number? = some x.toJson := rfl
  rw [stored, decode]
  simp only [StoredValue.isNull, number, read, FiniteDouble.toJson, notSafe]
  rfl

theorem decode_boolean (value : Bool) :
    boolean.decode (boolean.encode (.bool value)) = .ok (.bool value) := rfl

/-- A timestamp in normal form is read back as it is. -/
theorem decode_date {text : String} (normal : IsNormalTimestamp text) :
    date.decode (date.encode (.string text)) = .ok (.string text) := by
  obtain ⟨instant, read, same⟩ := normal.exists_ofStored?
  have stored : date.encode (.string text) = .instant instant := by
    simp only [date, read]
  rw [stored, ← same]
  rfl

/-- Arrays and objects are read back from their text. -/
theorem decode_json {value : Json}
    (structured : (∃ items, value = .array items) ∨ ∃ fields, value = .object fields)
    (fits : value.Fits Json.maxDepth) : json.decode (json.encode value) = .ok value := by
  have stored : json.encode value = .string value.toText := by
    rcases structured with ⟨items, rfl⟩ | ⟨fields, rfl⟩ <;> rfl
  rw [stored, decode]
  simp only [StoredValue.isNull, json, Json.ofText?_toText fits]
  rfl

end Codec

namespace CodecRegistry

/-- Null is stored as null, whatever the type. -/
theorem encode_null (type : PropertyType) : default.encode type .null = .null := by
  cases type <;> rfl

/-- The default registry reads null and every value of a type back from what it stores for it. -/
theorem decode_encode {type : PropertyType} {value : Json}
    (allowed : value = .null ∨ type.Allows value) :
    default.decode type (default.encode type value) = .ok value := by
  rcases allowed with rfl | allowed
  · rw [encode_null]
    rfl
  cases type with
  | uniqueId => obtain ⟨text, rfl⟩ := allowed; exact Codec.decode_text text
  | text => obtain ⟨text, rfl⟩ := allowed; exact Codec.decode_text text
  | bigText => obtain ⟨text, rfl⟩ := allowed; exact Codec.decode_text text
  | email => obtain ⟨text, rfl⟩ := allowed; exact Codec.decode_text text
  | modelReference => obtain ⟨text, rfl⟩ := allowed; exact Codec.decode_text text
  | integer => obtain ⟨integer, rfl⟩ := allowed; exact Codec.decode_integer integer
  | number =>
    rcases allowed with ⟨integer, rfl⟩ | ⟨x, floating, rfl⟩
    · exact Codec.decode_number integer
    · exact Codec.decode_number_double floating
  | boolean => obtain ⟨truth, rfl⟩ := allowed; exact Codec.decode_boolean truth
  | date => obtain ⟨text, normal, rfl⟩ := allowed; exact Codec.decode_date normal
  | datetime => obtain ⟨text, normal, rfl⟩ := allowed; exact Codec.decode_date normal
  | object => exact Codec.decode_json allowed.1 allowed.2
  | array => exact Codec.decode_json allowed.1 allowed.2
  | custom => exact allowed.elim

end CodecRegistry

end RecordStore
