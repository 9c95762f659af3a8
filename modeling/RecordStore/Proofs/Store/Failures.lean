import RecordStore.Proofs.Store.FailFast
import RecordStore.Proofs.Store.Finding
import RecordStore.Store.Script

/-!
# Failures of operations

What the operations of a datastore do when something goes wrong. An operation that refuses what it was given
has asked nothing of its store, and when a call fails its error comes through and nothing but a rollback
follows. `Datastore.SaveCourse` lists all that a save can ask of a store. The main statement
(`Datastore.failures_come_through`) is over every store that fails as a database does.
-/

namespace RecordStore

/-! ## Codecs do not refuse -/

/-- A provided codec that cannot read a stored value blames the value. -/
theorem Codec.unrefused_decode {codec : Codec} (provided : codec ∈ Codec.provided) (value : StoredValue) :
    Unrefused (codec.decode value) := by
  rw [decode]
  split
  · exact unrefused_ok _
  · simp only [Codec.provided, builtin, List.mem_cons, List.not_mem_nil, or_false] at provided
    rcases provided with rfl | rfl | rfl | rfl | rfl | rfl | rfl | rfl
    -- text, truth values and the codec that changes case read every value
    case inl => cases value <;> exact unrefused_ok _
    case inr.inl | inr.inr.inr.inr.inl => exact unrefused_ok _
    all_goals
      dsimp only [integer, number, date, json, bestGuess]
      split
      all_goals first | exact unrefused_ok _ | exact unrefused_error id

/-- A row that cannot be read is no refusal. -/
theorem CodecRegistry.IsProvided.unrefused_decodeRecord {registry : CodecRegistry}
    (provided : registry.IsProvided) (model : ModelDefinition) (row : StoredRow) :
    Unrefused (registry.decodeRecord model row) := by
  intro error failed
  have decoded (type : PropertyType) (value : StoredValue) : Unrefused (registry.decode type value) :=
    Codec.unrefused_decode (registry.codecFor_of_forall provided.codecs provided.fallback type) value
  cases fields : model.properties.mapM fun property => do
      return (property.name, ← registry.decode property.type (row.value property.name)) with
  | ok fields =>
    rw [decodeRecord, fields] at failed
    cases failed
  | error other =>
    rw [decodeRecord, fields] at failed
    cases failed
    obtain ⟨property, -, why⟩ := exists_error_of_mapM fields
    cases read : registry.decode property.type (row.value property.name) with
    | ok value =>
      rw [read] at why
      cases why
    | error other =>
      rw [read] at why
      cases why
      exact decoded _ _ _ read

/-! ## Operations -/

/-- A call of one of the operations of a datastore. -/
inductive Operation where
  | retrieve (model : ModelDefinition) (key : Json)
  | save (object : ModelInstance)
  | bulkInsert (model : ModelDefinition) (batch : List ModelInstance)
  | delete (model : ModelDefinition) (key : Json)
  | count (model : ModelDefinition)
  | search (model : ModelDefinition) (search : Search)

namespace Operation

/-- What an operation that succeeds answers. -/
def Answer : Operation → Type
  | retrieve _ _ => Option Record
  | save _ => Record
  | bulkInsert _ _ => Unit
  | delete _ _ => Unit
  | count _ => Nat
  | search _ _ => SearchResult

/-- What a datastore does at an operation. -/
def program (store : Datastore) : (operation : Operation) → Program operation.Answer
  | retrieve model key => store.retrieve model key
  | save object => store.save object
  | bulkInsert model batch => store.bulkInsert model batch
  | delete model key => store.delete model key
  | count model => store.count model
  | search model sought => store.search model sought

end Operation

theorem Program.failsFast_insideTransaction (statement : Statement) :
    (Program.insideTransaction statement).FailsFast := by
  refine ⟨fun _ _ => rfl, fun began => ?_⟩
  cases began with
  | error error => trivial
  | ok _ =>
    refine ⟨fun _ _ => rfl, fun executed => ?_⟩
    cases executed with
    | error error => exact ⟨fun rollback => absurd rfl rollback, fun _ => trivial⟩
    | ok _ => exact ⟨fun _ _ => rfl, fun _ => trivial⟩

theorem Program.neverRefuses_insideTransaction (statement : Statement) :
    (Program.insideTransaction statement).NeverRefuses := by
  intro began unrefused
  cases began with
  | error error => exact unrefused
  | ok _ =>
    intro executed unrefused
    cases executed with
    | error error => exact fun _ _ => unrefused.error
    | ok _ => exact fun _ unrefused => unrefused

namespace Datastore

section Unrefused

variable {store : Datastore} (provided : store.codecs.IsProvided)

include provided

/-! ## Operations of one call -/

theorem asksOnce_readBack (model : ModelDefinition) (key : Json) :
    (store.readBack model key).AsksOnce := by
  refine ⟨rfl, fun _ => rfl, fun found => ?_⟩
  cases found with
  | none => exact ⟨_, rfl, unrefused_error id⟩
  | some row => exact ⟨_, rfl, provided.unrefused_decodeRecord model row⟩

theorem asksOnce_retrieve (model : ModelDefinition) (key : Json) :
    (store.retrieve model key).AsksOnce := by
  rw [retrieve_eq_call]
  refine ⟨rfl, fun _ => rfl, fun found => ?_⟩
  cases found with
  | none => exact ⟨_, rfl, unrefused_ok _⟩
  | some row =>
    refine ⟨_, rfl, ?_⟩
    have decoded := provided.unrefused_decodeRecord model row
    cases read : store.codecs.decodeRecord model row with
    | error error => exact unrefused_error (decoded error read)
    | ok record => exact unrefused_ok _

omit provided in
theorem asksOnce_delete (model : ModelDefinition) (key : Json) :
    (store.delete model key).AsksOnce := by
  rw [delete_eq_call]
  exact ⟨rfl, fun _ => rfl, fun _ => ⟨_, rfl, unrefused_ok _⟩⟩

omit provided in
theorem asksOnce_count (model : ModelDefinition) : (store.count model).AsksOnce := by
  rw [count_eq_call]
  refine ⟨rfl, fun _ => rfl, fun row => ?_⟩
  dsimp only
  split
  · exact ⟨_, rfl, unrefused_ok _⟩
  · split
    · exact ⟨_, rfl, unrefused_ok _⟩
    · exact ⟨_, rfl, unrefused_error id⟩

omit provided in
theorem asksOnce_search (model : ModelDefinition) {search : Search} (accepted : search.check = .ok ()) :
    (store.search model search).AsksOnce := by
  rw [store.search_eq_call model accepted]
  exact ⟨rfl, fun _ => rfl, fun _ => ⟨_, rfl, unrefused_ok _⟩⟩

/-! ## All operations -/

/-- Every operation ends with the error of the first call that fails. -/
theorem failsFast (operation : Operation) : (operation.program store).FailsFast := by
  cases operation with
  | retrieve model key => exact (asksOnce_retrieve provided model key).failsFast
  | save object =>
    rw [Operation.program]
    cases keyed : object.primaryKey with
    | error error =>
      rw [store.save_of_error keyed]
      trivial
    | ok key =>
      obtain ⟨record, produced, -⟩ := ModelInstance.primaryKey_eq_ok_iff.1 keyed
      rw [store.save_of_primaryKey produced keyed]
      refine ⟨fun _ _ => rfl, fun written => ?_⟩
      cases written with
      | error error => trivial
      | ok _ => exact (asksOnce_readBack provided object.model key).failsFast
  | bulkInsert model batch =>
    rw [Operation.program]
    obtain ⟨-, ended⟩ | ⟨_, -, -, ended⟩ | ⟨_, -, _, -, -, ended⟩ | ⟨records, -, put⟩ :=
      store.bulkInsert_cases model batch
    · rw [ended]
      trivial
    · rw [ended]
      trivial
    · rw [ended]
      trivial
    · rw [put]
      exact Program.failsFast_insideTransaction _
  | delete model key => exact (asksOnce_delete model key).failsFast
  | count model => exact (asksOnce_count model).failsFast
  | search model search =>
    cases checked : search.check with
    | error fault =>
      rw [Operation.program, store.search_of_error model checked]
      trivial
    | ok _ => exact (asksOnce_search model checked).failsFast

/-- Every operation that refuses does so before its first call. -/
theorem refusesAtOnce (operation : Operation) : (operation.program store).RefusesAtOnce := by
  cases operation with
  | retrieve model key => exact .inr (asksOnce_retrieve provided model key).neverRefuses
  | save object =>
    cases keyed : object.primaryKey with
    | error error => exact .inl ⟨_, store.save_of_error keyed⟩
    | ok key =>
      obtain ⟨record, produced, -⟩ := ModelInstance.primaryKey_eq_ok_iff.1 keyed
      rw [Operation.program, store.save_of_primaryKey produced keyed]
      refine .inr fun written unrefused => ?_
      cases written with
      | error error => exact unrefused.error
      | ok _ => exact (asksOnce_readBack provided object.model key).neverRefuses
  | bulkInsert model batch =>
    obtain ⟨-, ended⟩ | ⟨_, -, -, ended⟩ | ⟨_, -, _, -, -, ended⟩ | ⟨records, -, put⟩ :=
      store.bulkInsert_cases model batch
    · exact .inl ⟨_, ended⟩
    · exact .inl ⟨_, ended⟩
    · exact .inl ⟨_, ended⟩
    · rw [Operation.program, put]
      exact .inr (Program.neverRefuses_insideTransaction _)
  | delete model key => exact .inr (asksOnce_delete model key).neverRefuses
  | count model => exact .inr (asksOnce_count model).neverRefuses
  | search model search =>
    cases checked : search.check with
    | error fault => exact .inl ⟨_, store.search_of_error model checked⟩
    | ok _ => exact .inr (asksOnce_search model checked).neverRefuses

end Unrefused

variable (store : Datastore)

/-! ## The course of a save -/

/-- The two statements of a save. The first inserts the row of the record, or overwrites with it the row
of its key. The second asks for one row whose key column has the very value that the first has there. -/
structure SavePair (object : ModelInstance) (record : Record) (upsert query : Statement) : Prop where
  upserts : Command.ofStatement? upsert = some (.insert (store.tableName object.model)
    (some object.model.columns) [store.codecs.encodeValues object.model record]
    (some ⟨object.model.key.name, object.model.columns.filter (· ≠ object.model.key.name)⟩))
  rereads : ∃ value,
    (object.model.columns.zip (store.codecs.encodeValues object.model record)).lookup
      object.model.key.name = some value ∧
    Command.ofStatement? query = some (.select .rows (store.tableName object.model)
      [(.and, .compare object.model.key.name .equal value)] [] (some 1) none)

/-- What a save asks of a store, the answers, and what comes of it. -/
inductive SaveCourse (object : ModelInstance) : List Exchange → Except Error Record → Prop
  /-- The object has no record, or no key in it. -/
  | refused {error : Error} : object.primaryKey = .error error → SaveCourse object [] (.error error)
  | unwritten {record : Record} {upsert query : Statement} {error : Error} :
    object.record = .ok record → store.SavePair object record upsert query →
    SaveCourse object [⟨.execute upsert, .error error⟩] (.error error)
  | unread {record : Record} {upsert query : Statement} {affected : Nat} {error : Error} :
    object.record = .ok record → store.SavePair object record upsert query →
    SaveCourse object
      [⟨.execute upsert, .ok affected⟩, ⟨.fetchOptional query, .error error⟩] (.error error)
  /-- The row that was written is not there. -/
  | missing {record : Record} {key : Json} {upsert query : Statement} {affected : Nat} :
    object.record = .ok record → object.primaryKey = .ok key →
    store.SavePair object record upsert query →
    SaveCourse object
      [⟨.execute upsert, .ok affected⟩, ⟨.fetchOptional query, .ok (none : Option StoredRow)⟩]
      (.error (.notFound (store.tableName object.model) key))
  | reread {record : Record} {upsert query : Statement} {affected : Nat} {row : StoredRow} :
    object.record = .ok record → store.SavePair object record upsert query →
    SaveCourse object
      [⟨.execute upsert, .ok affected⟩, ⟨.fetchOptional query, .ok (some row)⟩]
      (store.codecs.decodeRecord object.model row)

variable {store} in
/-- A record is written and read back under one stored key. -/
theorem savePair (provided : store.codecs.IsProvided) {object : ModelInstance} {record : Record}
    {key : Json} (produced : object.record = .ok record) (keyed : object.primaryKey = .ok key) :
    store.SavePair object record (store.statement (store.upsertQuery object.model record))
      (store.statement (store.keyQuery object.model key)) := by
  obtain ⟨_, again, rfl, present⟩ := ModelInstance.primaryKey_eq_ok_iff.1 keyed
  obtain rfl : record = _ := Except.ok.inj (produced.symm.trans again)
  have asked := store.command_keyQuery object.model (record.value object.model.key.name)
  rw [Predicate.equality_of_ne_null _ (provided.encodeKey_ne_null object.model present)] at asked
  exact ⟨store.command_upsertQuery object.model record, _,
    store.codecs.lookup_encodeRecord object.model record object.model.key_mem, asked⟩

variable {store} in
/-- Every run of a save takes one of its courses. -/
theorem saveCourse_save (provided : store.codecs.IsProvided) {σ : Type} (pool : Pool σ) (state : σ)
    (object : ModelInstance) :
    store.SaveCourse object ((store.save object).exchanges pool state)
      ((store.save object).run pool state).1 := by
  cases keyed : object.primaryKey with
  | error error =>
    rw [store.save_of_error keyed]
    exact .refused keyed
  | ok key =>
    obtain ⟨record, produced, -⟩ := ModelInstance.primaryKey_eq_ok_iff.1 keyed
    have pair := savePair provided produced keyed
    rw [store.save_of_primaryKey produced keyed]
    simp only [Program.exchanges, Program.run]
    cases written : (pool.answer state
        (.execute (store.statement (store.upsertQuery object.model record)))).1 with
    | error error => exact .unwritten produced pair
    | ok affected =>
      simp only [readBack, Program.exchanges, Program.run]
      generalize pool.answer _ (.fetchOptional (store.statement (store.keyQuery object.model key))) = reply
      obtain ⟨found, after⟩ := reply
      cases found with
      | error error => exact .unread produced pair
      | ok row =>
        cases row with
        | none => exact .missing produced keyed pair
        | some row => exact .reread produced pair

end Datastore

/-- A store that answers from a script fails as a database does. -/
theorem Pool.failsAsDatabase_scripted : Pool.scripted.FailsAsDatabase := by
  intro script call error failed
  match script with
  | [] => cases call <;> cases failed
  | .fail text :: rest =>
    cases failed
    exact ⟨_, rfl⟩
  | .give affected rows :: rest => cases call <;> cases failed

namespace Datastore

/-- What becomes of failures, over every store that fails as a database does and with provided codecs.
An operation that refuses what it was given has made no call. When a call other than a rollback fails, its
error is the result, and no call follows but the rollback of a transaction whose statement failed. And a
save reads back only what was written, by the very key that was stored, and answers what it read. -/
theorem failures_come_through {store : Datastore} (provided : store.codecs.IsProvided) {σ : Type}
    {pool : Pool σ} (fails : pool.FailsAsDatabase) (state : σ) (operation : Operation) :
    let exchanges := (operation.program store).exchanges pool state
    let result := ((operation.program store).run pool state).1
    (∀ error, result = .error error → error.IsRefusal → exchanges = []) ∧
    (∀ before call error after, exchanges = before ++ ⟨call, .error error⟩ :: after →
      call ≠ .rollback → result = .error error ∧ after.map Exchange.call = call.afterFailure) ∧
    ∀ object, store.SaveCourse object ((store.save object).exchanges pool state)
      ((store.save object).run pool state).1 := by
  intro exchanges result
  refine ⟨fun error failed refusal => ?_, fun before call error after asked other => ?_, fun object => ?_⟩
  · exact (refusesAtOnce provided operation).exchanges_eq_nil fails failed refusal
  · exact (failsFast provided operation).of_exchanges asked other
  · exact saveCourse_save provided pool state object

/-- A batch whose statement fails tells that failure, also when the rollback fails. -/
theorem failures_come_through_rollback :
    let model : ModelDefinition := ⟨"Note", [⟨"id", .uniqueId, true⟩], ⟨0, by decide⟩, by decide, by decide⟩
    let store : Datastore := ⟨.sqlite, {}⟩
    let batch := store.bulkInsert model [⟨model, .ok [("id", .string "n")]⟩]
    let script : List Reply := [.give 0 [], .fail "disk full", .fail "no connection"]
    (batch.run Pool.scripted script).1 = .error (Reply.failure "disk full") ∧
      (batch.exchanges Pool.scripted script).map Exchange.call =
        [.begin, .executeInside (store.batchStatement model [[("id", .string "n")]]), .rollback] := by
  intro model store batch script
  have provided : store.codecs.IsProvided := CodecRegistry.isBuiltin_default.isProvided
  have accepted : Accepted model [⟨model, .ok [("id", .string "n")]⟩] [[("id", .string "n")]] :=
    ⟨List.cons_ne_nil _ _, fun object member => by rw [List.mem_singleton.1 member], rfl⟩
  have asked : batch.exchanges Pool.scripted script =
      [⟨.begin, .ok ()⟩] ++ ⟨.executeInside (store.batchStatement model [[("id", .string "n")]]),
        .error (Reply.failure "disk full")⟩ :: [⟨.rollback, .error (Reply.failure "no connection")⟩] := by
    rw [show batch = _ from store.bulkInsert_of_accepted accepted]
    rfl
  obtain ⟨-, comesThrough, -⟩ := failures_come_through provided Pool.failsAsDatabase_scripted script
    (.bulkInsert model [⟨model, .ok [("id", .string "n")]⟩])
  exact ⟨(comesThrough _ _ _ _ asked nofun).1, by rw [asked]; rfl⟩

end Datastore

end RecordStore
