import RecordStore.Proofs.Store.Batch
import RecordStore.Proofs.Store.Operations
import RecordStore.Store.Script

/-!
# What is written

A record reaches a store by `save` or as part of a batch, and the rows that each of the two sends can be
said beforehand (`Datastore.sentRows_save`, `Datastore.sentRows_bulkInsert`). Saving sends no row without
a key; a batch that is accepted sends one for an instance that has none
(`Datastore.exists_null_key_iff`).
-/

namespace RecordStore

/-! ## Codecs and null -/

/-- The built-in codecs. -/
def Codec.builtin : List Codec := [.text, .integer, .number, .boolean, .date, .json, .bestGuess]

theorem Codec.encodeByKind_eq_null_iff (value : Json) :
    encodeByKind value = .null ↔ value = .null := by
  cases value with
  | number value =>
    rw [encodeByKind]
    split <;> simp
  | _ => simp [encodeByKind]

/-- No built-in codec stores a value as null or null as a value. -/
theorem Codec.encode_eq_null_iff {codec : Codec} (builtin : codec ∈ Codec.builtin) (value : Json) :
    codec.encode value = .null ↔ value = .null := by
  simp only [Codec.builtin, List.mem_cons, List.not_mem_nil, or_false] at builtin
  rcases builtin with rfl | rfl | rfl | rfl | rfl | rfl | rfl
  case inr.inr.inr.inr.inl =>
    cases value with
    | string value =>
      rw [Codec.date]
      dsimp only
      split <;> simp
    | null => exact encodeByKind_eq_null_iff .null
    | bool value => exact encodeByKind_eq_null_iff (.bool value)
    | number value => exact encodeByKind_eq_null_iff (.number value)
    | array items => exact encodeByKind_eq_null_iff (.array items)
    | object fields => exact encodeByKind_eq_null_iff (.object fields)
  all_goals exact encodeByKind_eq_null_iff value

namespace CodecRegistry

/-- A registry of built-in codecs, under whichever types. -/
structure IsBuiltin (registry : CodecRegistry) : Prop where
  codecs : ∀ entry ∈ registry.codecs, entry.2 ∈ Codec.builtin
  fallback : registry.fallback ∈ Codec.builtin

/-- What holds of all codecs of a registry holds of the codec of a type. -/
theorem codecFor_of_forall (registry : CodecRegistry) {holds : Codec → Prop}
    (codecs : ∀ entry ∈ registry.codecs, holds entry.2) (fallback : holds registry.fallback)
    (type : PropertyType) : holds (registry.codecFor type) := by
  rw [codecFor]
  cases found : registry.codecs.lookup type with
  | none => exact fallback
  | some codec =>
    obtain ⟨before, after, split, -⟩ := List.lookup_eq_some_iff.1 found
    exact codecs (type, codec) (split ▸ List.mem_append_right _ List.mem_cons_self)

variable {registry : CodecRegistry}

theorem IsBuiltin.codecFor_mem (builtin : registry.IsBuiltin) (type : PropertyType) :
    registry.codecFor type ∈ Codec.builtin :=
  registry.codecFor_of_forall builtin.codecs builtin.fallback type

theorem isBuiltin_default : default.IsBuiltin := by
  constructor
  · intro entry member
    simp only [default, List.mem_cons, List.not_mem_nil, or_false] at member
    rcases member with rfl | rfl | rfl | rfl | rfl | rfl | rfl | rfl | rfl | rfl | rfl | rfl <;>
      simp [Codec.builtin]
  · simp [default, Codec.builtin]

/-- The row of a record lacks the key exactly if the record does. -/
theorem IsBuiltin.key_encodeRecord_eq_null_iff (builtin : registry.IsBuiltin) (model : ModelDefinition)
    (record : Record) :
    (registry.encodeRecord model record).value model.key.name = .null ↔
      record.value model.key.name = .null := by
  rw [registry.value_encodeRecord model record model.key_mem]
  exact Codec.encode_eq_null_iff (builtin.codecFor_mem _) _

end CodecRegistry

/-! ## Rows that are sent -/

/-- The rows that a call inserts into a table, by column. -/
def Call.insertedRows (table : String) : Call → List StoredRow
  | .execute statement => statement.insertedRows table
  | .executeInside statement => statement.insertedRows table
  | .fetchAll statement => statement.insertedRows table
  | .fetchOptional statement => statement.insertedRows table
  | .begin => []
  | .commit => []
  | .rollback => []

namespace Program

variable {σ α : Type} (pool : Pool σ) (state : σ) (table : String)

/-- The rows that a program sends to a store to be inserted into a table, whether they are or not. -/
def sentRows (program : Program α) : List StoredRow :=
  (program.exchanges pool state).flatMap fun exchange => exchange.call.insertedRows table

theorem sentRows_call (request : Call) (next : Except Error request.Answer → Program α) :
    sentRows pool state table (.call request next) = request.insertedRows table ++
      sentRows pool (pool.answer state request).2 table (next (pool.answer state request).1) := rfl

end Program

namespace Datastore

variable (store : Datastore)

/-! ### Saving -/

variable {object : ModelInstance} {σ : Type} (pool : Pool σ) (state : σ) (table : String)

theorem sentRows_readBack (model : ModelDefinition) (key : Json) :
    (store.readBack model key).sentRows pool state table = [] := by
  rw [readBack, Program.sentRows_call, Call.insertedRows, insertedRows_keyQuery, List.nil_append]
  split <;> rfl

theorem sentRows_save_of_error {error : Error} (failed : object.primaryKey = .error error) :
    (store.save object).sentRows pool state table = [] := by
  rw [store.save_of_error failed]
  rfl

/-- Saving an object with a key sends its row, whatever the store answers. -/
theorem sentRows_save {record : Record} {key : Json} (produced : object.record = .ok record)
    (keyed : object.primaryKey = .ok key) :
    (store.save object).sentRows pool state table =
      if store.tableName object.model = table then [store.codecs.encodeRecord object.model record]
      else [] := by
  rw [store.save_of_primaryKey produced keyed, Program.sentRows_call, Call.insertedRows,
    insertedRows_upsertQuery]
  refine List.append_right_eq_self.2 ?_
  split
  · rfl
  · exact store.sentRows_readBack ..

/-! ### Batches -/

variable {model : ModelDefinition} {batch : List ModelInstance}

/-- A batch that is accepted sends its rows once a transaction is begun, whatever the store answers
then. -/
theorem sentRows_bulkInsert {records : List Record} (accepted : Accepted model batch records) :
    (store.bulkInsert model batch).sentRows pool state table =
      match (pool.answer state .begin).1 with
      | .ok _ => if store.tableName model = table then
          records.map (store.codecs.encodeRecord model) else []
      | .error _ => [] := by
  have inserted := store.insertedRows_of_carries (store.carries_batchStatement model accepted) table
  rw [store.bulkInsert_of_accepted accepted, Program.insideTransaction, Program.sentRows_call]
  refine (List.nil_append _).trans ?_
  cases began : (pool.answer state .begin).1 with
  | error _ => rfl
  | ok _ =>
    simp only [Program.sentRows_call, Call.insertedRows, inserted]
    refine List.append_right_eq_self.2 ?_
    split <;> rfl

variable (model batch) in
/-- A batch sends nothing, or it is accepted and sends its rows. -/
theorem sentRows_bulkInsert_cases :
    (store.bulkInsert model batch).sentRows pool state table = [] ∨
      ∃ records, Accepted model batch records ∧
        (store.bulkInsert model batch).sentRows pool state table =
          if store.tableName model = table then records.map (store.codecs.encodeRecord model)
          else [] := by
  have course := store.batchCourse_bulkInsert model batch pool state
  unfold Program.sentRows
  generalize (store.bulkInsert model batch).exchanges pool state = exchanges at course ⊢
  generalize ((store.bulkInsert model batch).run pool state).1 = result at course
  cases course with
  | empty => exact .inl rfl
  | rejected => exact .inl rfl
  | unproduced => exact .inl rfl
  | refused => exact .inl rfl
  | ended accepted carries =>
    refine .inr ⟨_, accepted, ?_⟩
    simp [Call.insertedRows, store.insertedRows_of_carries carries]
  | undone accepted carries =>
    refine .inr ⟨_, accepted, ?_⟩
    simp [Call.insertedRows, store.insertedRows_of_carries carries]

/-! ## Keys that are written -/

variable (builtin : store.codecs.IsBuiltin)

include builtin

/-- Every row that saving sends has a key. -/
theorem key_ne_null_of_mem_sentRows_save {row : StoredRow}
    (sent : row ∈ (store.save object).sentRows pool state table) :
    row.value object.model.key.name ≠ .null := by
  cases keyed : object.primaryKey with
  | error error =>
    rw [store.sentRows_save_of_error pool state table keyed] at sent
    cases sent
  | ok key =>
    obtain ⟨record, produced, rfl, present⟩ := ModelInstance.primaryKey_eq_ok_iff.1 keyed
    rw [store.sentRows_save pool state table produced keyed] at sent
    split at sent
    · rw [List.mem_singleton.1 sent, ne_eq, builtin.key_encodeRecord_eq_null_iff]
      exact present
    · cases sent

/-- A row without a key that a batch sends is that of an instance without a key. -/
theorem exists_missing_key_of_mem_sentRows {row : StoredRow}
    (sent : row ∈ (store.bulkInsert model batch).sentRows pool state table)
    (missing : row.value model.key.name = .null) :
    ∃ object ∈ batch, ∃ record, object.record = .ok record ∧ record.value model.key.name = .null := by
  obtain none | ⟨records, accepted, rows⟩ :=
    store.sentRows_bulkInsert_cases pool state table model batch
  · rw [none] at sent
    cases sent
  · rw [rows] at sent
    split at sent
    · obtain ⟨record, member, rfl⟩ := List.mem_map.1 sent
      obtain ⟨object, inside, produced⟩ := accepted.mem_records.1 member
      have lacking := (builtin.key_encodeRecord_eq_null_iff model record).1 missing
      exact ⟨object, inside, record, produced, lacking⟩
    · cases sent

/-- A batch that sends rows sends one without a key for an instance without a key. -/
theorem exists_mem_sentRows_of_missing_key {object : ModelInstance} (inside : object ∈ batch)
    {record : Record} (produced : object.record = .ok record)
    (missing : record.value model.key.name = .null)
    (some_sent : (store.bulkInsert model batch).sentRows pool state table ≠ []) :
    ∃ row ∈ (store.bulkInsert model batch).sentRows pool state table,
      row.value model.key.name = .null := by
  obtain none | ⟨records, accepted, rows⟩ :=
    store.sentRows_bulkInsert_cases pool state table model batch
  · exact absurd none some_sent
  · refine ⟨store.codecs.encodeRecord model record, ?_,
      (builtin.key_encodeRecord_eq_null_iff model record).2 missing⟩
    rw [rows] at some_sent ⊢
    split at some_sent
    · next own =>
      rw [if_pos own]
      exact List.mem_map_of_mem (accepted.mem_records.2 ⟨object, inside, produced⟩)
    · exact absurd rfl some_sent

/-- Saving sends no row with a null key: an object whose record lacks the key is refused before the
store is asked for anything. A batch sends one exactly if it sends rows at all and the record of some
instance lacks the key. -/
theorem exists_null_key_iff :
    (∀ object : ModelInstance,
      (∀ record, object.record = .ok record → record.value object.model.key.name = .null →
        store.save object = .fail (.missingPrimaryKey object.model.key.name)) ∧
      ∀ table, ∀ row ∈ (store.save object).sentRows pool state table,
        row.value object.model.key.name ≠ .null) ∧
    ∀ model batch,
      (∃ table, ∃ row ∈ (store.bulkInsert model batch).sentRows pool state table,
        row.value model.key.name = .null) ↔
      (∃ table, (store.bulkInsert model batch).sentRows pool state table ≠ []) ∧
        ∃ object ∈ batch, ∃ record, object.record = .ok record ∧
          record.value model.key.name = .null := by
  refine ⟨fun object => ⟨fun record produced missing => ?_, fun table row sent => ?_⟩,
    fun model batch => ⟨?_, ?_⟩⟩
  · exact store.save_of_error (ModelInstance.primaryKey_of_null produced missing)
  · exact store.key_ne_null_of_mem_sentRows_save pool state table builtin sent
  · rintro ⟨table, row, sent, missing⟩
    exact ⟨⟨table, List.ne_nil_of_mem sent⟩,
      store.exists_missing_key_of_mem_sentRows pool state table builtin sent missing⟩
  · rintro ⟨⟨table, some_sent⟩, object, inside, record, produced, missing⟩
    exact ⟨table, store.exists_mem_sentRows_of_missing_key pool state table builtin inside produced
      missing some_sent⟩

omit builtin in
/-- Saving a note sends a row with its id. -/
theorem exists_null_key_iff_note :
    let model : ModelDefinition := ⟨"Note", [⟨"id", .uniqueId, true⟩, ⟨"text", .text, true⟩],
      ⟨0, by decide⟩, by decide, by decide⟩
    let store : Datastore := ⟨.sqlite, {}⟩
    store.codecs.IsBuiltin ∧
      ∀ table, ∀ row ∈ (store.save ⟨model, .ok [("id", .string "n")]⟩).sentRows Pool.scripted [] table,
        row.value "id" ≠ .null := by
  intro model store
  have builtin : store.codecs.IsBuiltin := CodecRegistry.isBuiltin_default
  exact ⟨builtin, ((exists_null_key_iff store Pool.scripted [] builtin).1
    ⟨model, .ok [("id", .string "n")]⟩).2⟩

omit builtin in
/-- A batch of one note without an id succeeds, and its row has a null key. -/
theorem bulkInsert_sends_null_key :
    let model : ModelDefinition := ⟨"Note", [⟨"id", .uniqueId, true⟩, ⟨"text", .text, true⟩],
      ⟨0, by decide⟩, by decide, by decide⟩
    let store : Datastore := ⟨.sqlite, {}⟩
    let batch : List ModelInstance := [⟨model, .ok [("text", .string "x")]⟩]
    ((store.bulkInsert model batch).run Pool.scripted []).1 = .ok () ∧
      (store.bulkInsert model batch).sentRows Pool.scripted [] (store.tableName model) =
        [[("id", .null), ("text", .string "x")]] := by
  intro model store batch
  have accepted : Accepted model batch [[("text", .string "x")]] :=
    ⟨List.cons_ne_nil _ _, fun object member => by rw [List.mem_singleton.1 member], rfl⟩
  constructor
  · rw [store.bulkInsert_of_accepted accepted]
    rfl
  · rw [store.sentRows_bulkInsert Pool.scripted [] _ accepted]
    exact if_pos rfl

end Datastore

end RecordStore
