import RecordStore.Proofs.Codec.RoundTrip
import RecordStore.Proofs.Row
import RecordStore.Proofs.Sql.BoundValues
import RecordStore.Store.Datastore

/-!
# Bounds of dates

A search compares a column of dates with the instant it asks for, written in the normal form of
records, so cut to milliseconds. Saving binds the instant of the record's own text to its full
precision. The two are the same for instants of whole milliseconds and for no other, and so a row on
the bound is in or out as the search says for these instants only (`Datastore.dateBound_iff`).
-/

namespace RecordStore

/-! ## The two values -/

namespace Instant

/-- The texts that tell an instant to its full precision. -/
def IsFullText (instant : Instant) (text : String) : Prop :=
  text = instant.toFullText ∨ text = instant.toOffsetText

theorem ofStored?_of_isFullText {instant : Instant} (short : instant.HasShortYear) {text : String}
    (full : instant.IsFullText text) : ofStored? text = some instant := by
  rcases full with rfl | rfl
  · exact ofStored?_text short .shortest endsUtc_zulu
  · exact ofStored?_text short .shortest endsUtc_zero

/-- Cutting to milliseconds keeps an instant exactly if it has no smaller part. -/
theorem cut_millis_eq_iff (instant : Instant) :
    instant.cut .millis = instant ↔ instant.nanos % 1000000 = 0 := by
  constructor
  · intro same
    have nanos : instant.nanos / 1000000 * 1000000 = instant.nanos :=
      congrArg Instant.nanos same
    omega
  · intro whole
    exact eq_of_second_of_nanos rfl (Nat.div_mul_cancel (Nat.dvd_of_mod_eq_zero whole))

end Instant

namespace Datastore

variable (store : Datastore)

/-- The value that saving a record of a model binds for a column. -/
def savedValue (model : ModelDefinition) (record : Record) (column : String) : StoredValue :=
  let query := store.upsertQuery model record
  StoredRow.value (query.columns.zip (query.rows.headD [])) column

/-- Saving binds for a property what its codec makes of the value. -/
theorem savedValue_eq (model : ModelDefinition) (record : Record) {property : Property}
    (member : property ∈ model.properties) :
    store.savedValue model record property.name =
      store.codecs.encode property.type (record.value property.name) :=
  store.codecs.value_encodeRecord model record member

section Dates

variable {store} {model : ModelDefinition} {property : Property} {date : Instant}

theorem savedValue_of_isFullText (builtin : store.codecs = .default)
    (member : property ∈ model.properties) (dated : property.type.IsDate)
    (short : date.HasShortYear) {record : Record} {text : String} (full : date.IsFullText text)
    (holds : record.value property.name = .string text) :
    store.savedValue model record property.name = .instant date := by
  rw [savedValue_eq store model record member, builtin, holds,
    CodecRegistry.encode_timestamp dated (Instant.ofStored?_of_isFullText short full)]

theorem dateValue_eq (builtin : store.codecs = .default) (member : property ∈ model.properties)
    (dated : property.type.IsDate) (short : date.HasShortYear) :
    dateValue store.codecs model property.name date = .instant (date.cut .millis) := by
  rw [dateValue, model.property?_of_mem member, builtin]
  simp only [CodecRegistry.encodeProperty, model.property?_of_mem member]
  exact CodecRegistry.encode_timestamp dated (Instant.ofStored?_toIsoText short)

end Dates

end Datastore

/-! ## Rows on the bound -/

/-- Whether an instant comes before another one. -/
def Instant.isBefore (left right : Instant) : Bool :=
  left.second < right.second || (left.second == right.second && left.nanos < right.nanos)

/-- Whether two instants compare as asked in the order of time; they match no pattern. -/
def Comparison.holdsOfInstants (left right : Instant) : Comparison → Bool
  | equal => left = right
  | greater => right.isBefore left
  | greaterOrEqual => !left.isBefore right
  | less => left.isBefore right
  | lessOrEqual => !right.isBefore left
  | like => false
  | likeAnyCase => false

namespace Predicate

/-- Whether a predicate that compares instants holds of a stored instant. -/
def holdsOfInstant (stored : StoredValue) : Predicate → Bool
  | compare _ comparison (.instant bound) =>
    match stored with
    | .instant value => comparison.holdsOfInstants value bound
    | _ => false
  | _ => false

end Predicate

/-- The leaves that bound the dates of a property by an instant, which is inside or not. -/
def Leaf.IsDateBound (key : String) (date : Instant) (inclusive : Bool) (leaf : Leaf) : Prop :=
  leaf = .datesBefore key date inclusive ∨ leaf = .datesAfter key date inclusive

theorem Instant.isBefore_self (instant : Instant) : instant.isBefore instant = false := by
  simp [isBefore]

/-- An instant lies behind its milliseconds if it has a smaller part. -/
theorem Instant.cut_millis_isBefore (instant : Instant) :
    (instant.cut .millis).isBefore instant = decide (instant.nanos % 1000000 ≠ 0) ∧
      instant.isBefore (instant.cut .millis) = false := by
  have second : (instant.cut .millis).second = instant.second := rfl
  have nanos : (instant.cut .millis).nanos = instant.nanos / 1000000 * 1000000 := rfl
  simp only [isBefore, second, nanos, Int.lt_irrefl, decide_false, Bool.false_or, BEq.rfl,
    Bool.true_and, decide_eq_decide, decide_eq_false_iff_not]
  omega

namespace Datastore

/-- The value that a date is compared with is the one that saving the date binds exactly if the date
has no part smaller than a millisecond; and exactly then a row with this date is found by the leaves
that include the bound and by no others. -/
theorem dateBound_iff (store : Datastore) (builtin : store.codecs = .default)
    {model : ModelDefinition} {property : Property} (member : property ∈ model.properties)
    (dated : property.type.IsDate) {date : Instant} (short : date.HasShortYear) {record : Record}
    {text : String} (full : date.IsFullText text)
    (holds : record.value property.name = .string text) :
    (∀ inclusive leaf, Leaf.IsDateBound property.name date inclusive leaf →
      ((leaf.predicate store.codecs model).bound? =
          some (store.savedValue model record property.name) ↔ date.nanos % 1000000 = 0)) ∧
    ((∀ inclusive leaf, Leaf.IsDateBound property.name date inclusive leaf →
      (leaf.predicate store.codecs model).holdsOfInstant
          (store.savedValue model record property.name) = inclusive) ↔
        date.nanos % 1000000 = 0) := by
  have saved := savedValue_of_isFullText builtin member dated short full holds
  have bound := dateValue_eq builtin member dated short
  rw [saved]
  constructor
  · intro inclusive leaf bounds
    have value : (leaf.predicate store.codecs model).bound? =
        some (.instant (date.cut .millis)) := by
      rcases bounds with rfl | rfl <;> simp only [Leaf.predicate, bound, Predicate.bound?]
    rw [value, Option.some_inj, StoredValue.instant.injEq, Instant.cut_millis_eq_iff]
  · constructor
    · intro found
      have inside := found true _ (.inl rfl)
      simp only [Leaf.predicate, bound, if_true, Predicate.holdsOfInstant,
        Comparison.holdsOfInstants, date.cut_millis_isBefore.1] at inside
      simpa using inside
    · rintro whole inclusive leaf (rfl | rfl) <;> rw [(Instant.cut_millis_eq_iff date).2 whole] at bound <;>
        cases inclusive <;>
          simp [Leaf.predicate, bound, Predicate.holdsOfInstant, Comparison.holdsOfInstants,
            date.isBefore_self]

/-- A leap second of half a second is compared with what saving it binds. -/
theorem dateBound_iff_leapSecond :
    let model : ModelDefinition := ⟨"Event", [⟨"id", .uniqueId, true⟩, ⟨"at", .datetime, true⟩],
      ⟨0, by decide⟩, by decide, by decide⟩
    let store : Datastore := ⟨.postgres, {}⟩
    let date : Instant := ⟨1483228799, 1500000000, by decide, by decide, by decide⟩
    let record : Record := [("at", .string date.toOffsetText), ("id", .string "e")]
    ((Leaf.datesBefore "at" date true).predicate store.codecs model).bound? =
      some (store.savedValue model record "at") := by
  intro model store date record
  have member : (⟨"at", .datetime, true⟩ : Property) ∈ model.properties := by decide
  have short : date.HasShortYear := by decide
  have holds : record.value "at" = .string date.toOffsetText := rfl
  have found := dateBound_iff store rfl member (.inr rfl) short (.inr rfl) holds
  exact (found.1 true _ (.inl rfl)).2 (by decide)

/-- A row saved half a microsecond after midnight is found by a search for what is after exactly that
instant, for the search compares with midnight. -/
theorem dateBound_ne_savedValue :
    let model : ModelDefinition := ⟨"Event", [⟨"id", .uniqueId, true⟩, ⟨"at", .datetime, true⟩],
      ⟨0, by decide⟩, by decide, by decide⟩
    let store : Datastore := ⟨.postgres, {}⟩
    let date : Instant := ⟨1648944000, 500, by decide, by decide, by decide⟩
    let record : Record := [("at", .string date.toFullText), ("id", .string "e")]
    let predicate := (Leaf.datesAfter "at" date false).predicate store.codecs model
    predicate.bound? ≠ some (store.savedValue model record "at") ∧
      predicate.holdsOfInstant (store.savedValue model record "at") = true := by
  intro model store date record predicate
  have member : (⟨"at", .datetime, true⟩ : Property) ∈ model.properties := by decide
  have short : date.HasShortYear := by decide
  have builtin : store.codecs = .default := rfl
  have holds : record.value "at" = .string date.toFullText := rfl
  have saved := savedValue_of_isFullText builtin member (.inr rfl) short (.inl rfl) holds
  have bound := dateValue_eq builtin member (.inr rfl) short
  have compares : predicate = .compare "at" .greater (.instant (date.cut .millis)) :=
    congrArg (Predicate.compare "at" .greater) bound
  rw [saved, compares]
  constructor
  · rw [Predicate.bound?, Ne, Option.some_inj, StoredValue.instant.injEq, Instant.cut_millis_eq_iff]
    decide
  · decide

end Datastore

end RecordStore
