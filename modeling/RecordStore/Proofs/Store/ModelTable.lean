import RecordStore.Proofs.Memory.Answers
import RecordStore.Proofs.Store.Batch
import RecordStore.Proofs.Store.RecordMap

/-!
# The table of a model

A store that keeps values as they are bound has one row for each entry in the table of a model, and each
statement of a datastore does to the entries what it says: an upsert puts one among them, a batch adds
its own or is refused, and the others find, delete and count.
-/

namespace RecordStore

/-- The types whose values are texts. -/
def PropertyType.textual : List PropertyType := [.uniqueId, .text, .bigText, .email, .modelReference]

namespace Datastore

variable (store : Datastore) {model : ModelDefinition}

/-- The row of an entry. -/
def rowOf (entry : KeyedRecord model) : List StoredValue :=
  store.codecs.encodeValues model entry.record

/-- The table of a model with the rows of entries. -/
def tableOf (entries : List (KeyedRecord model)) : Table StoredValue :=
  ⟨model.columns, model.key.name, entries.map store.rowOf⟩

/-- The database of this table alone, perhaps with that at the beginning of a transaction. -/
def databaseOf (entries : List (KeyedRecord model)) (saved : Option (List (KeyedRecord model))) :
    Database StoredValue where
  tables := [(store.tableName model, store.tableOf entries)]
  saved := saved.map fun before => [(store.tableName model, store.tableOf before)]

theorem setRows_databaseOf (entries : List (KeyedRecord model))
    (saved : Option (List (KeyedRecord model))) (others : List (KeyedRecord model)) :
    (store.databaseOf entries saved).setRows (store.tableName model) (others.map store.rowOf) =
      store.databaseOf others saved := by
  simp [Database.setRows, databaseOf, tableOf]

theorem checkWidths_rowOf (name : String) (entries batch : List (KeyedRecord model)) :
    Database.checkWidths name (store.tableOf entries) (some model.columns) (batch.map store.rowOf) =
      .ok () := by
  have even : (batch.map store.rowOf).find? (·.length ≠ model.columns.length) = none := by
    refine List.find?_eq_none.2 fun row member => ?_
    obtain ⟨entry, -, rfl⟩ := List.mem_map.1 member
    simp [rowOf, store.codecs.length_encodeValues]
  simp only [Database.checkWidths, Option.getD_some, even]

variable (kind : CellKind StoredValue)

theorem answer_begin (entries : List (KeyedRecord model)) :
    (Pool.ofCells kind).answer (store.databaseOf entries none) .begin =
      (.ok (), store.databaseOf entries (some entries)) := rfl

theorem answer_commit (entries : List (KeyedRecord model))
    (saved : Option (List (KeyedRecord model))) :
    (Pool.ofCells kind).answer (store.databaseOf entries saved) .commit =
      (.ok (), store.databaseOf entries none) := rfl

theorem answer_rollback (entries before : List (KeyedRecord model)) :
    (Pool.ofCells kind).answer (store.databaseOf entries (some before)) .rollback =
      (.ok (), store.databaseOf before none) := rfl

theorem runStatement_databaseOf (entries : List (KeyedRecord model))
    (saved : Option (List (KeyedRecord model))) {statement : Statement} {command : Command}
    (said : Command.ofStatement? statement = some command)
    (own : command.table = store.tableName model) :
    (store.databaseOf entries saved).runStatement kind statement =
      (store.databaseOf entries saved).runOn kind (store.tableOf entries) command := by
  refine Database.runStatement_of_lookup kind said ?_
  rw [own]
  exact List.lookup_cons_self

/-- Keyed records make a batch that is accepted. -/
theorem accepted_of_keyed {batch : List (KeyedRecord model)} (nonempty : batch ≠ []) :
    Accepted model (batch.map KeyedRecord.object) (batch.map KeyedRecord.record) := by
  refine ⟨mt List.map_eq_nil_iff.1 nonempty, fun object member => ?_, ?_⟩
  · obtain ⟨entry, -, rfl⟩ := List.mem_map.1 member
    rfl
  · rw [List.map_map, List.map_map]
    rfl

/-- Counting answers how many entries there are. -/
theorem answer_countQuery (entries : List (KeyedRecord model)) :
    (Pool.ofCells kind).answer (store.databaseOf entries none)
        (.fetchOptional (store.statement (store.countQuery model))) =
      (.ok (some [("count", .integer (Int64.ofNat entries.length))]),
        store.databaseOf entries none) := by
  have ran := store.runStatement_databaseOf kind entries none
    (store.command_countQuery model) rfl
  have all : (store.tableOf entries).select kind [] [] none none = entries.map store.rowOf :=
    List.filter_eq_self.2 fun _ _ => rfl
  rw [Database.runOn, all, List.length_map] at ran
  rw [Pool.answer_fetchOptional ran]
  rfl

variable {kind} (keeps : kind.KeepsValues)

include keeps

theorem map_ofStored (values : List StoredValue) : values.map kind.ofStored = values := by
  rw [show kind.ofStored = id from funext keeps.ofStored, List.map_id]

theorem toRow_rowOf (entries : List (KeyedRecord model)) (entry : KeyedRecord model) :
    (store.tableOf entries).toRow kind (store.rowOf entry) =
      store.codecs.encodeRecord model entry.record := by
  rw [Table.toRow, show kind.toStored = id from funext keeps.toStored, List.map_id]
  rfl

/-- An insert of entries is that of their rows. -/
theorem runOn_insert (entries batch : List (KeyedRecord model))
    (saved : Option (List (KeyedRecord model))) {conflict : Option Conflict}
    (own : ∀ conflicting ∈ conflict, conflicting.key = model.key.name)
    (merged : ∀ conflicting ∈ conflict, conflicting.merged ⊆ model.columns) :
    (store.databaseOf entries saved).runOn kind (store.tableOf entries)
        (.insert (store.tableName model) (some model.columns) (batch.map store.rowOf) conflict) =
      match (store.tableOf entries).insertRows kind conflict (batch.map store.rowOf)
          (entries.map store.rowOf) with
      | some (rows, affected) =>
        .ok ⟨[], affected, (store.databaseOf entries saved).setRows (store.tableName model) rows⟩
      | none => .error (.notUnique (store.tableName model) model.key.name) := by
  have cells : (batch.map store.rowOf).map (fun row =>
      (store.tableOf entries).rowOf kind model.columns (row.map kind.ofStored)) =
        batch.map store.rowOf := by
    rw [List.map_map]
    refine List.map_congr_left fun entry _ => ?_
    rw [Function.comp_apply, map_ofStored keeps]
    exact Table.rowOf_columns model.nodup (store.codecs.length_encodeValues model entry.record)
  have named : Database.checkColumns (store.tableOf entries) (.noColumn (store.tableName model))
      model.columns = .ok () := Database.checkColumns_eq_ok_iff.2 fun _ member => member
  have known : Database.checkColumns (store.tableOf entries) .noMergedColumn
      (conflict.elim [] Conflict.merged) = .ok () := by
    refine Database.checkColumns_eq_ok_iff.2 fun column member => ?_
    cases conflict with
    | none => cases member
    | some conflicting => exact merged conflicting rfl member
  have ownKey : conflict.any (·.key ≠ (store.tableOf entries).key) = false := by
    cases conflict with
    | none => rfl
    | some conflicting => simp [tableOf, own conflicting rfl]
  have rows : (store.tableOf entries).rows = entries.map store.rowOf := rfl
  cases inserted : (store.tableOf entries).insertRows kind conflict (batch.map store.rowOf)
      (entries.map store.rowOf) <;>
    simp only [Database.runOn, Option.getD_some, named, store.checkWidths_rowOf, ownKey, known, cells,
      rows, inserted] <;>
    rfl

variable (builtin : store.codecs = .default) (textual : model.key.type ∈ PropertyType.textual)

include builtin textual

omit keeps in
/-- The key of a record is stored as it is. -/
theorem encodeKey_string (key : String) : store.codecs.encodeKey model (.string key) = .string key := by
  rw [builtin, CodecRegistry.encodeKey]
  simp only [PropertyType.textual, List.mem_cons, List.not_mem_nil, or_false] at textual
  rcases textual with same | same | same | same | same <;> rw [same] <;> rfl

theorem keyed_tableOf (entries : List (KeyedRecord model)) :
    (store.tableOf entries).Keyed kind store.rowOf (KeyedRecord.key : KeyedRecord model → String) := by
  refine ⟨fun left right => ?_, fun entry => ?_⟩
  · rw [keeps.ofStored, keeps.ofStored, keeps.texts]
  · have held := store.codecs.value_encodeRecord model entry.record model.key_mem
    rw [entry.holds] at held
    rw [Table.keyOf, Table.cell, keeps.null, keeps.ofStored]
    exact held.trans (store.encodeKey_string builtin textual entry.key)

/-! ## What the store answers -/

/-- The row of a key is overwritten as a whole. -/
theorem overwrites (entries : List (KeyedRecord model)) (old new : KeyedRecord model)
    (same : new.key = old.key) :
    let merged := model.columns.filter (· ≠ model.key.name)
    if merged = [] then store.rowOf old = store.rowOf new
    else (store.tableOf entries).merge kind merged (store.rowOf old) (store.rowOf new) =
      store.rowOf new := by
  intro merged
  split
  · next none =>
    refine store.codecs.encodeValues_congr model fun property member => ?_
    have only := List.filter_eq_nil_iff.1 none _ (List.mem_map_of_mem member)
    have own : property.name = model.key.name := by simpa using only
    rw [own, old.holds, new.holds, same]
  · have keyed := store.keyed_tableOf keeps builtin textual entries
    refine Table.merge_eq_new model.nodup (store.codecs.length_encodeValues model new.record) ?_
    intro column member kept
    have own : column = model.key.name := by
      simpa [merged, show column ∈ model.columns from member] using kept
    rw [own]
    exact (keyed.keyOf old).trans (same ▸ (keyed.keyOf new).symm)

variable (entries : List (KeyedRecord model))

/-- An upsert puts the entry among the others. -/
theorem answer_upsertQuery (entry : KeyedRecord model) :
    ∃ changed, (Pool.ofCells kind).answer (store.databaseOf entries none)
        (.execute (store.statement (store.upsertQuery model entry.record))) =
      (.ok changed, store.databaseOf (Table.put KeyedRecord.key entry entries) none) := by
  have keyed := store.keyed_tableOf keeps builtin textual entries
  obtain ⟨changed, inserted⟩ := keyed.insertRow_of_conflict
    ⟨model.key.name, model.columns.filter (· ≠ model.key.name)⟩
    (store.overwrites keeps builtin textual entries) entry entries
  have ran := store.runStatement_databaseOf kind entries none
    (store.command_upsertQuery model entry.record) rfl
  rw [show [store.codecs.encodeValues model entry.record] = [entry].map store.rowOf from rfl,
    store.runOn_insert keeps entries [entry] none (by rintro _ ⟨⟩; rfl)
      (by rintro _ ⟨⟩; exact List.filter_subset_self _)] at ran
  simp only [List.map_singleton, Table.insertRows, inserted, Option.bind_eq_bind, Option.bind_some,
    Option.pure_def, Nat.add_zero, setRows_databaseOf] at ran
  exact ⟨changed, Pool.answer_execute ran⟩

/-- Looking up a key finds the row of its entry. -/
theorem answer_keyQuery (key : String) :
    (Pool.ofCells kind).answer (store.databaseOf entries none)
        (.fetchOptional (store.statement (store.keyQuery model (.string key)))) =
      (.ok ((entries.find? (·.key == key)).map fun entry =>
        store.codecs.encodeRecord model entry.record), store.databaseOf entries none) := by
  have keyed := store.keyed_tableOf keeps builtin textual entries
  have selected : (store.tableOf entries).select kind
      [(.and, .equality model.key.name (.string key))] [] (some 1) none =
        ((entries.find? (·.key == key)).map store.rowOf).toList := keyed.select_equality rfl key
  have ran := store.runStatement_databaseOf kind entries none
    (store.command_keyQuery model (.string key)) rfl
  rw [store.encodeKey_string builtin textual, Database.runOn, selected] at ran
  rw [Pool.answer_fetchOptional ran]
  cases entries.find? (·.key == key) with
  | none => rfl
  | some entry => simp [store.toRow_rowOf keeps]

/-- Deleting a key leaves the other entries. -/
theorem answer_deleteQuery (key : String) :
    ∃ changed, (Pool.ofCells kind).answer (store.databaseOf entries none)
        (.execute (store.statement (store.deleteQuery model (.string key)))) =
      (.ok changed, store.databaseOf (entries.filter (·.key != key)) none) := by
  have keyed := store.keyed_tableOf keeps builtin textual entries
  have kept : (store.tableOf entries).rows.filter (fun row => !(store.tableOf entries).satisfies kind
      [(.and, .equality model.key.name (.string key))] row) =
        (entries.filter (·.key != key)).map store.rowOf := keyed.filter_not_satisfies entries key
  have ran := store.runStatement_databaseOf kind entries none
    (store.command_deleteQuery model (.string key)) rfl
  rw [store.encodeKey_string builtin textual, Database.runOn, kept, setRows_databaseOf] at ran
  exact ⟨_, Pool.answer_execute ran⟩

omit builtin textual in
/-- The statement of a batch inserts the rows of its entries. -/
theorem runStatement_batchStatement {batch : List (KeyedRecord model)} (nonempty : batch ≠ [])
    (saved : Option (List (KeyedRecord model))) :
    (store.databaseOf entries saved).runStatement kind
        (store.batchStatement model (batch.map KeyedRecord.record)) =
      match (store.tableOf entries).insertRows kind none (batch.map store.rowOf)
          (entries.map store.rowOf) with
      | some (rows, affected) =>
        .ok ⟨[], affected, (store.databaseOf entries saved).setRows (store.tableName model) rows⟩
      | none => .error (.notUnique (store.tableName model) model.key.name) := by
  have said := store.carries_batchStatement model (accepted_of_keyed nonempty)
  rw [Carries, List.map_map] at said
  rw [store.runStatement_databaseOf kind entries saved said rfl]
  exact store.runOn_insert keeps entries batch saved nofun nofun

/-- Inside a transaction, a batch of fresh keys is added to the entries. -/
theorem answer_batchStatement {batch : List (KeyedRecord model)} (nonempty : batch ≠ [])
    (before : List (KeyedRecord model)) (fresh : Table.Fresh KeyedRecord.key batch entries) :
    (Pool.ofCells kind).answer (store.databaseOf entries (some before))
        (.executeInside (store.batchStatement model (batch.map KeyedRecord.record))) =
      (.ok batch.length, store.databaseOf (entries ++ batch) (some before)) := by
  have keyed := store.keyed_tableOf keeps builtin textual entries
  have ran := store.runStatement_batchStatement keeps entries nonempty (some before)
  rw [keyed.insertRows_of_fresh fresh] at ran
  rw [Pool.answer_executeInside ran, setRows_databaseOf]

/-- A batch of other keys is refused. -/
theorem answer_batchStatement_of_not_fresh {batch : List (KeyedRecord model)} (nonempty : batch ≠ [])
    (before : List (KeyedRecord model)) (stale : ¬Table.Fresh KeyedRecord.key batch entries) :
    (Pool.ofCells kind).answer (store.databaseOf entries (some before))
        (.executeInside (store.batchStatement model (batch.map KeyedRecord.record))) =
      (.error (DatabaseFault.notUnique (store.tableName model) model.key.name).error,
        store.databaseOf entries (some before)) := by
  have keyed := store.keyed_tableOf keeps builtin textual entries
  have ran := store.runStatement_batchStatement keeps entries nonempty (some before)
  rw [keyed.insertRows_of_not_fresh stale] at ran
  exact Pool.answer_executeInside_of_error ran

end Datastore

end RecordStore
