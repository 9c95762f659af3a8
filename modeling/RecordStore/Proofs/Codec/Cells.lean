import RecordStore.Memory.Cell
import RecordStore.Proofs.Codec.Dates
import RecordStore.Proofs.Codec.RoundTrip

/-!
# Values read back from cells

Cells have fewer kinds than stored values: a truth value is bound as an integer and an instant as text,
and a cell is read by its own kind. The built-in codecs hide this for the values that conform to their
types, as `CodecRegistry.decode_readBack` says. In general it shows in two places only: a truth value of
a type for something else comes back as a number, and a date in a year with a sign comes back as text
that tells no instant (`CodecRegistry.decode_readBack_eq_iff`).
-/

namespace RecordStore

/-! ## What cells keep -/

/-- The stored value that is read from the cell where this one is kept. -/
def StoredValue.readBack (stored : StoredValue) : StoredValue := (Cell.ofStored stored).toStored

theorem Double.readBack_stored {value : Double} (number : value ≠ nan) :
    (StoredValue.double value).readBack = .double value := by
  cases value with
  | nan => exact absurd rfl number
  | finite | infinite => rfl

theorem JsonNumber.toDouble_ne_nan (number : JsonNumber) : number.toDouble ≠ .nan := by
  intro same
  cases number with
  | double => cases same
  | integer value =>
    rw [toDouble, Double.ofInt, Double.ofRatio, Double.ofOrdinal] at same
    split at same <;> cases same

namespace Codec

/-- Of the JSON values that are stored by their kind, truth values alone are not kept. -/
theorem readBack_encodeByKind {value : Json} (noTruth : ∀ truth, value ≠ .bool truth) :
    (encodeByKind value).readBack = encodeByKind value := by
  cases value with
  | bool truth => exact absurd rfl (noTruth truth)
  | number number =>
    rw [encodeByKind]
    split
    · rfl
    · exact Double.readBack_stored number.toDouble_ne_nan
  | null | string | array | object => rfl

theorem decode_readBack_of_byKind {codec : Codec} {value : Json}
    (byKind : codec.encode value = encodeByKind value) (noTruth : ∀ truth, value ≠ .bool truth) :
    codec.decode (codec.encode value).readBack = codec.decode (codec.encode value) := by
  rw [byKind, readBack_encodeByKind noTruth]

/-- Truth values are read alike from truth values and from the integers they are bound as. -/
theorem decode_boolean_readBack (value : Json) :
    boolean.decode (boolean.encode value).readBack = boolean.decode (boolean.encode value) := by
  cases value with
  | bool truth => cases truth <;> rfl
  | null | number | string | array | object => exact decode_readBack_of_byKind rfl nofun

/-! ## Dates -/

/-- An instant is read from the text it is bound as, or refused where its year carries a sign. -/
theorem decode_date_instant_readBack (instant : Instant) :
    date.decode (StoredValue.instant instant).readBack =
      if instant.HasShortYear then .ok (.string instant.toIsoText)
      else .error (.decode .date (.string instant.toOffsetText)) := by
  have bound : (StoredValue.instant instant).readBack = .string instant.toOffsetText := rfl
  have told : (StoredValue.string instant.toOffsetText).instant? =
      if instant.HasShortYear then some instant else none :=
    instant.ofStored?_text_eq .shortest endsUtc_zero
  rw [bound, decode_date_of_present rfl, told]
  by_cases short : instant.HasShortYear
  · simp only [short, if_true]
  · simp only [short, if_false]

/-- The text of a date is read alike from what is stored for it and from its cell exactly if it tells
no instant beyond the years 0 to 9999. -/
theorem decode_date_readBack_eq_iff (text : String) :
    date.decode (date.encode (.string text)).readBack = date.decode (date.encode (.string text)) ↔
      ∀ instant, Instant.ofStored? text = some instant → instant.HasShortYear := by
  cases told : Instant.ofStored? text with
  | none =>
    have stored : date.encode (.string text) = .string text := by
      simp only [date, told]
    have kept : (StoredValue.string text).readBack = .string text := rfl
    rw [stored, kept]
    simp only [reduceCtorEq, false_imp_iff, implies_true]
  | some instant =>
    have stored : date.encode (.string text) = .instant instant := by
      simp only [date, told]
    have direct : date.decode (.instant instant) = .ok (.string instant.toIsoText) := rfl
    rw [stored, direct, decode_date_instant_readBack]
    simp only [Option.some_inj, forall_eq']
    split
    · next short => exact iff_of_true rfl short
    · next signed => exact iff_of_false (fun same => by cases same) signed

end Codec

/-! ## Built-in types -/

/-- The values that conform to a type: any number for the type of numbers, and for dates any text but
that of an instant beyond the years 0 to 9999. -/
def PropertyType.Conforms (value : Json) : PropertyType → Prop
  | uniqueId | text | bigText | email | modelReference => ∃ text, value = .string text
  | integer => ∃ integer, value = .number (.ofInt64 integer)
  | number => (∃ integer, value = .number (.ofInt64 integer)) ∨ ∃ x, value = .number (.double x)
  | boolean => ∃ truth, value = .bool truth
  | date | datetime => ∃ text, value = .string text ∧
      ∀ instant, Instant.ofStored? text = some instant → instant.HasShortYear
  | object | array => (∃ items, value = .array items) ∨ ∃ fields, value = .object fields
  | custom _ => False

namespace PropertyType

variable {type : PropertyType}

/-- Values that are read back as they were written conform to their types. -/
theorem Allows.conforms {value : Json} (allowed : type.Allows value) : type.Conforms value := by
  have short {text : String} (normal : IsNormalTimestamp text) (instant : Instant)
      (told : Instant.ofStored? text = some instant) : instant.HasShortYear := by
    obtain ⟨own, read, rfl⟩ := normal.exists_ofStored?
    have settled := own.ofStored?_toIsoText_eq
    rw [told] at read settled
    cases read
    split at settled
    · assumption
    · cases settled
  cases type with
  | number => exact allowed.imp_right fun ⟨x, _, same⟩ => ⟨x, same⟩
  | date | datetime =>
    obtain ⟨text, normal, same⟩ := allowed
    exact ⟨text, same, short normal⟩
  | object | array => exact allowed.1
  | custom => exact allowed.elim
  | _ => exact allowed

/-- Truth values conform to their own type only. -/
theorem Conforms.eq_boolean {truth : Bool} (conforms : type.Conforms (.bool truth)) :
    type = .boolean := by
  cases type with
  | boolean => rfl
  | number => rcases conforms with ⟨_, same⟩ | ⟨_, same⟩ <;> cases same
  | object | array => rcases conforms with ⟨_, same⟩ | ⟨_, same⟩ <;> cases same
  | custom => exact conforms.elim
  | date | datetime =>
    obtain ⟨_, same, _⟩ := conforms
    cases same
  | _ =>
    obtain ⟨_, same⟩ := conforms
    cases same

theorem Conforms.hasShortYear (dated : type.IsDate) {text : String}
    (conforms : type.Conforms (.string text)) {instant : Instant}
    (told : Instant.ofStored? text = some instant) : instant.HasShortYear := by
  rcases dated with rfl | rfl
  all_goals
    obtain ⟨_, same, short⟩ := conforms
    cases same
    exact short instant told

/-- No value that conforms to its type is one of those that change in a cell. -/
theorem Conforms.isKept {value : Json} (conforms : type.Conforms value) :
    (type ≠ .boolean → ∀ truth, value ≠ .bool truth) ∧
      (type.IsDate → ∀ text, value = .string text →
        ∀ instant, Instant.ofStored? text = some instant → instant.HasShortYear) := by
  constructor
  · rintro other truth rfl
    exact other conforms.eq_boolean
  · rintro dated text rfl instant told
    exact conforms.hasShortYear dated told

end PropertyType

namespace CodecRegistry

/-- A truth value of a type for something else is read from its cell as another value. -/
theorem decode_readBack_bool_ne {type : PropertyType} (other : type ≠ .boolean) (truth : Bool) :
    default.decode type (default.encode type (.bool truth)).readBack ≠
      default.decode type (default.encode type (.bool truth)) := by
  have texts : ∀ truth, (StoredValue.bool truth).readBack.plainText ≠
      (StoredValue.bool truth).plainText := by decide
  cases type with
  | boolean => exact absurd rfl other
  | uniqueId | text | bigText | email | modelReference =>
    exact fun same => texts truth (Json.string.inj (Except.ok.inj same))
  | integer | number | date | datetime => cases truth <;> exact nofun
  | object | array | custom => cases truth <;> exact nofun

/-- Only the text of a date is not stored by its kind. -/
theorem encode_eq_byKind {type : PropertyType} {value : Json}
    (noDate : type.IsDate → ∀ text, value ≠ .string text) :
    (default.codecFor type).encode value = Codec.encodeByKind value := by
  cases type with
  | date =>
    cases value with
    | string text => exact absurd rfl (noDate (.inl rfl) text)
    | null | bool | number | array | object => rfl
  | datetime =>
    cases value with
    | string text => exact absurd rfl (noDate (.inr rfl) text)
    | null | bool | number | array | object => rfl
  | _ => rfl

/-- What a built-in codec stores is decoded alike before and after it was in a cell exactly if it is no
truth value of a type for something else and no date of an instant beyond the years 0 to 9999. -/
theorem decode_readBack_eq_iff (type : PropertyType) (value : Json) :
    default.decode type (default.encode type value).readBack =
        default.decode type (default.encode type value) ↔
      (type ≠ .boolean → ∀ truth, value ≠ .bool truth) ∧
      (type.IsDate → ∀ text, value = .string text →
        ∀ instant, Instant.ofStored? text = some instant → instant.HasShortYear) := by
  by_cases truths : type = .boolean
  · subst truths
    exact iff_of_true (Codec.decode_boolean_readBack value)
      ⟨fun other => absurd rfl other, fun dated => by rcases dated with same | same <;> cases same⟩
  by_cases isTruth : ∃ truth, value = .bool truth
  · obtain ⟨truth, rfl⟩ := isTruth
    exact iff_of_false (decode_readBack_bool_ne truths truth) fun both => both.1 truths truth rfl
  have noTruth : ∀ truth, value ≠ .bool truth := fun truth same => isTruth ⟨truth, same⟩
  by_cases dateText : type.IsDate ∧ ∃ text, value = .string text
  · obtain ⟨dated, text, rfl⟩ := dateText
    simp only [decode, encode, PropertyType.codecFor_of_isDate dated,
      Codec.decode_date_readBack_eq_iff, truths, dated, ne_eq, not_false_eq_true, true_imp_iff,
      reduceCtorEq, Json.string.injEq, forall_eq', implies_true, true_and]
  · have noDate : type.IsDate → ∀ text, value ≠ .string text :=
      fun dated text same => dateText ⟨dated, text, same⟩
    exact iff_of_true (Codec.decode_readBack_of_byKind (encode_eq_byKind noDate) noTruth)
      ⟨fun _ => noTruth, fun dated text same => absurd same (noDate dated text)⟩

/-- A cell keeps what is read back as it was written. -/
theorem decode_readBack_of_allows {type : PropertyType} {value : Json}
    (allowed : value = .null ∨ type.Allows value) :
    default.decode type (default.encode type value).readBack = .ok value := by
  rw [← decode_encode allowed]
  rcases allowed with rfl | allowed
  · rw [encode_null]
    rfl
  · exact (decode_readBack_eq_iff type value).2 allowed.conforms.isKept

/-- Null and every value that conforms to its type are decoded alike, or refused alike, from what is
stored for them and from the cell where that is kept, and as they were if they are in normal form. -/
theorem decode_readBack {type : PropertyType} {value : Json}
    (conforms : value = .null ∨ type.Conforms value) :
    default.decode type (default.encode type value).readBack =
        default.decode type (default.encode type value) ∧
      (value = .null ∨ type.Allows value →
        default.decode type (default.encode type value).readBack = .ok value) := by
  refine ⟨?_, decode_readBack_of_allows⟩
  rcases conforms with rfl | conforms
  · rw [encode_null]
    rfl
  · exact (decode_readBack_eq_iff type value).2 conforms.isKept

/-- Nanoseconds into a leap second, written behind UTC, are bound as text in UTC and read from it. -/
theorem decode_readBack_leapSecond :
    let value : Json := .string "2016-12-31 18:59:60.123456789-05:00"
    let stored := default.encode .datetime value
    PropertyType.datetime.Conforms value ∧
      stored.readBack = .string "2016-12-31T23:59:60.123456789+00:00" ∧
      default.decode .datetime stored.readBack = default.decode .datetime stored ∧
      default.decode .datetime stored = .ok (.string "2016-12-31T23:59:60.123Z") := by
  intro value stored
  let instant : Instant := ⟨1483228799, 1123456789, by decide, by decide, by decide⟩
  have read : Instant.ofStored? "2016-12-31 18:59:60.123456789-05:00" = some instant := by decide
  have bound : instant.toOffsetText = "2016-12-31T23:59:60.123456789+00:00" := by decide
  have normal : instant.toIsoText = "2016-12-31T23:59:60.123Z" := by decide
  have conforms : PropertyType.datetime.Conforms value := by
    refine ⟨_, rfl, fun told same => ?_⟩
    cases read.symm.trans same
    decide
  have stores : stored = .instant instant := encode_timestamp (.inr rfl) read
  refine ⟨conforms, ?_, (decode_readBack (.inr conforms)).1, ?_⟩
  · rw [stores, ← bound]
    rfl
  · rw [stores, ← normal]
    rfl

end CodecRegistry

end RecordStore
