import RecordStore.Proofs.Store.Writing

/-!
# Two ways to the same row

An object that is saved is stored by its own definition, and one in a batch by the definition of the
batch, which must have the same name and may be another one all the same. The two rows of an object are
the same exactly if both definitions store its record alike (`Datastore.sentRows_agree_iff`); a batch
drops what its own definition does not declare (`Datastore.bulkInsert_drops_note`).
-/

namespace RecordStore

namespace ModelDefinition

/-- The definition has a property of this name and type. -/
def Declares (model : ModelDefinition) (name : String) (type : PropertyType) : Prop :=
  ∃ property ∈ model.properties, property.name = name ∧ property.type = type

variable {model : ModelDefinition}

theorem Declares.unique {name : String} {type other : PropertyType} (declared : model.Declares name type)
    (again : model.Declares name other) : type = other := by
  obtain ⟨property, member, rfl, rfl⟩ := declared
  obtain ⟨second, also, same, rfl⟩ := again
  rw [model.eq_of_name_eq also member same]

theorem mem_columns_iff {name : String} : name ∈ model.columns ↔ ∃ type, model.Declares name type := by
  constructor
  · intro member
    obtain ⟨property, inside, rfl⟩ := List.mem_map.1 member
    exact ⟨_, property, inside, rfl, rfl⟩
  · rintro ⟨_, property, inside, rfl, -⟩
    exact List.mem_map_of_mem inside

end ModelDefinition

namespace CodecRegistry

variable (registry : CodecRegistry) {first second : ModelDefinition} {record : Record}

/-- The row of a record has the declared columns, each with the value that its type stores. -/
theorem lookup_encodeRecord_eq_some_iff {model : ModelDefinition} {name : String} {value : StoredValue} :
    (registry.encodeRecord model record).lookup name = some value ↔
      ∃ type, model.Declares name type ∧ registry.encode type (record.value name) = value := by
  constructor
  · intro found
    rw [encodeRecord_eq_map] at found
    obtain ⟨before, after, entries, -⟩ := List.lookup_eq_some_iff.1 found
    have member : (name, value) ∈ model.properties.map fun property =>
        (property.name, registry.encode property.type (record.value property.name)) :=
      entries ▸ List.mem_append_right _ List.mem_cons_self
    obtain ⟨property, inside, same⟩ := List.mem_map.1 member
    cases same
    exact ⟨_, ⟨property, inside, rfl, rfl⟩, rfl⟩
  · rintro ⟨_, ⟨property, inside, rfl, rfl⟩, rfl⟩
    exact registry.lookup_encodeRecord model record inside

/-- Two definitions with the same columns, whose types store the values of a record alike. -/
structure StoresAlike (first second : ModelDefinition) (record : Record) : Prop where
  columns : ∀ name, name ∈ first.columns ↔ name ∈ second.columns
  values : ∀ name type other, first.Declares name type → second.Declares name other →
    registry.encode type (record.value name) = registry.encode other (record.value name)

variable {registry} in
theorem StoresAlike.symm (alike : registry.StoresAlike first second record) :
    registry.StoresAlike second first record :=
  ⟨fun name => (alike.columns name).symm, fun name type other declared again =>
    (alike.values name other type again declared).symm⟩

variable {registry} in
theorem StoresAlike.lookup (alike : registry.StoresAlike first second record) {name : String}
    {value : StoredValue} (found : (registry.encodeRecord first record).lookup name = some value) :
    (registry.encodeRecord second record).lookup name = some value := by
  obtain ⟨type, declared, rfl⟩ := registry.lookup_encodeRecord_eq_some_iff.1 found
  obtain ⟨other, again⟩ := ModelDefinition.mem_columns_iff.1
    ((alike.columns name).1 (ModelDefinition.mem_columns_iff.2 ⟨type, declared⟩))
  exact registry.lookup_encodeRecord_eq_some_iff.2
    ⟨other, again, (alike.values name type other declared again).symm⟩

/-- What one of two equal rows has of a record, the other has too. -/
theorem exists_declares_of_lookup (same : ∀ name, (registry.encodeRecord first record).lookup name =
      (registry.encodeRecord second record).lookup name) {name : String} {type : PropertyType}
    (declared : first.Declares name type) :
    ∃ other, second.Declares name other ∧
      registry.encode other (record.value name) = registry.encode type (record.value name) := by
  rw [← registry.lookup_encodeRecord_eq_some_iff, ← same name]
  exact registry.lookup_encodeRecord_eq_some_iff.2 ⟨type, declared, rfl⟩

/-- The rows of a record by two definitions are the same exactly if both store it alike. -/
theorem lookup_encodeRecord_eq_iff :
    (∀ name, (registry.encodeRecord first record).lookup name =
      (registry.encodeRecord second record).lookup name) ↔
      registry.StoresAlike first second record := by
  constructor
  · intro same
    have back (name : String) := (same name).symm
    refine ⟨fun name => ?_, fun name type other declared again => ?_⟩
    · simp only [ModelDefinition.mem_columns_iff]
      constructor
      · rintro ⟨type, declared⟩
        obtain ⟨other, again, -⟩ := registry.exists_declares_of_lookup same declared
        exact ⟨other, again⟩
      · rintro ⟨type, declared⟩
        obtain ⟨other, again, -⟩ := registry.exists_declares_of_lookup back declared
        exact ⟨other, again⟩
    · obtain ⟨third, also, stored⟩ := registry.exists_declares_of_lookup same declared
      rw [again.unique also, stored]
  · intro alike name
    exact Option.ext fun value => ⟨alike.lookup, alike.symm.lookup⟩

/-- Definitions that declare the same properties, in whatever order, store every record alike. -/
theorem storesAlike_of_declares
    (same : ∀ name type, first.Declares name type ↔ second.Declares name type) :
    registry.StoresAlike first second record := by
  refine ⟨fun name => ?_, fun name type other declared again => ?_⟩
  · simp only [ModelDefinition.mem_columns_iff, same]
  · rw [((same name type).1 declared).unique again]

end CodecRegistry

namespace Datastore

variable (store : Datastore) {model : ModelDefinition} {batch : List ModelInstance}
  {records : List Record}

theorem Accepted.record_of_mem_zip (accepted : Accepted model batch records) {object : ModelInstance}
    {record : Record} (paired : (object, record) ∈ batch.zip records) : object.record = .ok record := by
  obtain ⟨index, bound, pair⟩ := List.mem_iff_getElem.1 paired
  rw [List.getElem_zip, Prod.mk.injEq] at pair
  obtain ⟨rfl, rfl⟩ := pair
  have same := congrArg (fun results => results[index]?) accepted.produced
  rw [List.length_zip] at bound
  simpa [Nat.lt_of_lt_of_le bound (Nat.min_le_left ..),
    Nat.lt_of_lt_of_le bound (Nat.min_le_right ..)] using same

/-- A batch of objects with keys that is accepted carries one row for each object, encoded by the
definition of the batch. Saving an object sends one row too, encoded by the definition of the object.
The two are the same exactly if both definitions store the record of the object alike; so it is when both
declare the same properties. -/
theorem sentRows_agree_iff (accepted : Accepted model batch records)
    (keyed : ∀ object ∈ batch, ∃ key, object.primaryKey = .ok key) {σ : Type} (pool : Pool σ)
    (state : σ) (began : (pool.answer state .begin).1 = .ok ()) :
    let sent := (store.bulkInsert model batch).sentRows pool state (store.tableName model)
    sent.length = batch.length ∧
    ∀ object row, (object, row) ∈ batch.zip sent → ∃ record own, object.record = .ok record ∧
      row = store.codecs.encodeRecord model record ∧
      own = store.codecs.encodeRecord object.model record ∧
      (∀ {τ : Type} (other : Pool τ) (start : τ) (table : String),
        (store.save object).sentRows other start table =
          if store.tableName object.model = table then [own] else []) ∧
      ((∀ column, own.lookup column = row.lookup column) ↔
        store.codecs.StoresAlike object.model model record) ∧
      ((∀ name type, object.model.Declares name type ↔ model.Declares name type) →
        ∀ column, own.lookup column = row.lookup column) := by
  intro sent
  have rows : sent = records.map (store.codecs.encodeRecord model) := by
    have carried := store.sentRows_bulkInsert pool state (store.tableName model) accepted
    rwa [began, if_pos rfl] at carried
  rw [rows]
  constructor
  · have lengths := congrArg List.length accepted.produced
    rw [List.length_map, List.length_map] at lengths
    rw [List.length_map, lengths]
  · intro _ _ paired
    rw [List.zip_map_right] at paired
    obtain ⟨⟨object, record⟩, member, same⟩ := List.mem_map.1 paired
    cases same
    obtain ⟨key, has_key⟩ := keyed object (List.of_mem_zip member).1
    have produced := accepted.record_of_mem_zip member
    have agree : (∀ column, (store.codecs.encodeRecord object.model record).lookup column =
        (store.codecs.encodeRecord model record).lookup column) ↔
          store.codecs.StoresAlike object.model model record :=
      store.codecs.lookup_encodeRecord_eq_iff
    exact ⟨record, store.codecs.encodeRecord object.model record, produced, rfl, rfl,
      fun other start table => store.sentRows_save other start table produced has_key, agree,
      fun declared => agree.2 (store.codecs.storesAlike_of_declares declared)⟩

/-- An item whose definition has the properties of the batch in another order. -/
theorem sentRows_agree_iff_reordered :
    let id : Property := ⟨"id", .uniqueId, true⟩
    let note : Property := ⟨"note", .text, false⟩
    let model : ModelDefinition := ⟨"Item", [id, note], ⟨0, by decide⟩, by decide, by decide⟩
    let object : ModelInstance :=
      ⟨⟨"Item", [note, id], ⟨1, by decide⟩, by decide, by decide⟩, .ok [("id", .string "a")]⟩
    let store : Datastore := ⟨.sqlite, {}⟩
    let sent := (store.bulkInsert model [object]).sentRows Pool.scripted [] (store.tableName model)
    sent.length = 1 ∧ ∀ row ∈ sent, ∃ own,
      (store.save object).sentRows Pool.scripted [] (store.tableName object.model) = [own] ∧
        ∀ column, own.lookup column = row.lookup column := by
  intro id note model object store sent
  have accepted : Accepted model [object] [[("id", .string "a")]] :=
    ⟨List.cons_ne_nil _ _, fun _ member => by rw [List.mem_singleton.1 member], rfl⟩
  have keyed : ∀ other ∈ [object], ∃ key, other.primaryKey = .ok key :=
    fun _ member => ⟨.string "a", by rw [List.mem_singleton.1 member]; rfl⟩
  have declared (name : String) (type : PropertyType) :
      object.model.Declares name type ↔ model.Declares name type := by
    simp [ModelDefinition.Declares, object, model, or_comm]
  obtain ⟨length, agree⟩ := sentRows_agree_iff store accepted keyed Pool.scripted [] rfl
  refine ⟨length, fun row member => ?_⟩
  obtain ⟨only, same⟩ := List.length_eq_one_iff.1 length
  have paired : (object, row) ∈ [object].zip sent := by
    rw [show sent = [only] from same] at member ⊢
    rw [List.mem_singleton.1 member]
    exact List.mem_singleton.2 rfl
  obtain ⟨record, own, -, -, -, saved, -, agreed⟩ := agree object row paired
  exact ⟨own, (saved Pool.scripted [] _).trans (if_pos rfl), agreed declared⟩

/-- An item whose definition declares a note is saved with the note, and inserted without it in a batch
whose definition, of the same name, declares none. -/
theorem bulkInsert_drops_note :
    let id : Property := ⟨"id", .uniqueId, true⟩
    let note : Property := ⟨"note", .text, false⟩
    let model : ModelDefinition := ⟨"Item", [id], ⟨0, by decide⟩, by decide, by decide⟩
    let object : ModelInstance := ⟨⟨"Item", [id, note], ⟨0, by decide⟩, by decide, by decide⟩,
      .ok [("id", .string "a"), ("note", .string "x")]⟩
    let store : Datastore := ⟨.sqlite, {}⟩
    (store.bulkInsert model [object]).sentRows Pool.scripted [] (store.tableName model) =
        [[("id", .string "a")]] ∧
      (store.save object).sentRows Pool.scripted [] (store.tableName object.model) =
        [[("id", .string "a"), ("note", .string "x")]] ∧
      ((store.bulkInsert model [object]).run Pool.scripted []).1 = .ok () := by
  intro id note model object store
  have accepted : Accepted model [object] [[("id", .string "a"), ("note", .string "x")]] :=
    ⟨List.cons_ne_nil _ _, fun _ member => by rw [List.mem_singleton.1 member], rfl⟩
  refine ⟨?_, ?_, ?_⟩
  · rw [store.sentRows_bulkInsert Pool.scripted [] _ accepted]
    exact if_pos rfl
  · have keyed : object.primaryKey = .ok (.string "a") := rfl
    rw [store.sentRows_save Pool.scripted [] _ rfl keyed]
    exact if_pos rfl
  · rw [store.bulkInsert_of_accepted accepted]
    rfl

end Datastore

end RecordStore
