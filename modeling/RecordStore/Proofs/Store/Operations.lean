import RecordStore.Proofs.Store.Exchange
import RecordStore.Proofs.Store.Statements

/-!
# Operations as courses of calls

What saving, retrieving, deleting, counting and searching ask of a store and what they make of each answer. The
lemmas of this module are all that is used of the definitions of these operations; batches have a module
of their own.
-/

namespace RecordStore

/-! ## Keys of instances -/

namespace ModelInstance

variable {object : ModelInstance} {record : Record}

theorem primaryKey_of_null (produced : object.record = .ok record)
    (missing : record.value object.model.key.name = .null) :
    object.primaryKey = .error (.missingPrimaryKey object.model.key.name) := by
  rw [primaryKey, produced]
  simp only [bind, Except.bind, missing]
  rfl

/-- The key of an instance is the value in its record, if it is not null. -/
theorem primaryKey_eq_ok_iff {key : Json} :
    object.primaryKey = .ok key ↔
      ∃ record, object.record = .ok record ∧ record.value object.model.key.name = key ∧ key ≠ .null := by
  cases produced : object.record with
  | error error => simp [primaryKey, produced, bind, Except.bind]
  | ok record =>
    by_cases missing : record.value object.model.key.name = .null
    · rw [primaryKey_of_null produced missing]
      refine iff_of_false nofun ?_
      rintro ⟨_, ⟨⟩, rfl, present⟩
      exact present missing
    · have present : object.primaryKey = .ok (record.value object.model.key.name) := by
        rw [primaryKey, produced]
        simp only [bind, Except.bind]
        rfl
      rw [present, Except.ok.injEq]
      constructor
      · rintro rfl
        exact ⟨record, rfl, rfl, missing⟩
      · rintro ⟨_, ⟨⟩, same, -⟩
        exact same

end ModelInstance

namespace Datastore

variable (store : Datastore)

/-! ## Saving -/

variable {object : ModelInstance}

/-- An object without a key, or without a record, is refused before the store is asked for anything. -/
theorem save_of_error {error : Error} (failed : object.primaryKey = .error error) :
    store.save object = .done (.error error) := by
  cases produced : object.record with
  | error other =>
    rw [ModelInstance.primaryKey, produced] at failed
    cases failed
    simp only [save, produced]
    rfl
  | ok record =>
    simp only [save, produced, failed]
    rfl

/-- Reads a record that was written. -/
def readBack (model : ModelDefinition) (key : Json) : Program Record :=
  .call (.fetchOptional (store.statement (store.keyQuery model key))) fun
    | .error error => .done (.error error)
    | .ok none => .done (.error (.notFound (store.tableName model) key))
    | .ok (some row) => .done (store.codecs.decodeRecord model row)

/-- An object with a key is written and read back by its key. -/
theorem save_of_primaryKey {record : Record} {key : Json} (produced : object.record = .ok record)
    (keyed : object.primaryKey = .ok key) :
    store.save object = .call (.execute (store.statement (store.upsertQuery object.model record))) fun
      | .error error => .done (.error error)
      | .ok _ => store.readBack object.model key := by
  simp only [save, produced, keyed, fetchByKey, Program.lift, Program.ok_bind, Program.perform_bind]
  refine congrArg (Program.call _) (funext fun written => ?_)
  cases written with
  | error error => rfl
  | ok _ =>
    refine congrArg (Program.call _) (funext fun found => ?_)
    match found with
    | .error _ => rfl
    | .ok none => rfl
    | .ok (some _) => rfl

/-! ## Retrieving, deleting and counting -/

variable (model : ModelDefinition)

/-- Retrieving asks for the row of a key. -/
theorem retrieve_eq_call (key : Json) :
    store.retrieve model key = .call (.fetchOptional (store.statement (store.keyQuery model key))) fun
      | .error error => .done (.error error)
      | .ok none => .done (.ok none)
      | .ok (some row) => .done ((store.codecs.decodeRecord model row).map some) := by
  refine congrArg (Program.call _) (funext fun found => ?_)
  match found with
  | .error _ => rfl
  | .ok none => rfl
  | .ok (some row) =>
    change (Program.done (store.codecs.decodeRecord model row) >>= fun record => pure (some record)) =
      .done ((store.codecs.decodeRecord model row).map some)
    cases store.codecs.decodeRecord model row <;> rfl

/-- Deleting does not mind how many rows there were. -/
theorem delete_eq_call (key : Json) :
    store.delete model key = .call (.execute (store.statement (store.deleteQuery model key))) fun
      | .error error => .done (.error error)
      | .ok _ => .done (.ok ()) := by
  rw [delete, Program.perform_bind]
  refine congrArg (Program.call _) (funext fun deleted => ?_)
  cases deleted <;> rfl

/-- Counting asks for one row and reads its column `count`. -/
theorem count_eq_call :
    store.count model = .call (.fetchOptional (store.statement (store.countQuery model))) fun
      | .error error => .done (.error error)
      | .ok row => match row.bind (·.lookup "count") with
        | none => .done (.ok 0)
        | some value => match rowCount? value with
          | some count => .done (.ok count)
          | none => .done (.error (.decode .rowCount value)) := by
  refine congrArg (Program.call _) (funext fun answered => ?_)
  cases answered <;> rfl

/-! ## Searching -/

/-- The record of a row, if it can be read. -/
def readable (row : StoredRow) : Option Record := (store.codecs.decodeRecord model row).toOption

/-- A search without a meaning is refused before the store is asked for anything. -/
theorem search_of_error {search : Search} {fault : SequenceFault} (refused : search.check = .error fault) :
    store.search model search = .done (.error (.malformedQuery (.sequence fault))) := by
  simp only [Datastore.search, Search.compile, Search.validated, refused]
  rfl

/-- A search that is accepted asks for rows once, and leaves out those that cannot be read. -/
theorem search_eq_call {search : Search} (accepted : search.check = .ok ()) :
    store.search model search =
      .call (.fetchAll (store.statement (store.searchQuery model search))) fun
        | .error error => .done (.error error)
        | .ok rows => .done (.ok {
            records := rows.filterMap (store.readable model)
            next := if (store.searchQuery model search).isPaginated then
              some ((positiveCount search.page).getD 0 + UInt64.ofNat rows.length) else none }) := by
  have compiled := search.compile_of_check store.codecs model (store.tableName model) accepted
  simp only [Datastore.search, compiled, Program.lift, Program.ok_bind, Program.perform_bind]
  refine congrArg (Program.call _) (funext fun answered => ?_)
  cases answered <;> rfl

end Datastore

end RecordStore
