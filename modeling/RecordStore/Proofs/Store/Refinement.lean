import RecordStore.Proofs.Store.ModelTable
import RecordStore.Proofs.Store.Operations

/-!
# A datastore is a map

Over a store that keeps values as they are bound and does what statements say, the operations of a
datastore on one model, whose keys are texts, are those of a finite map from keys to records. A request
answers what the map says (`Request.Answers`) and changes the map as told (`Request.after`), and so does
every sequence of requests (`Datastore.behaves_serve`).
-/

namespace RecordStore

/-! ## Requests -/

/-- A request about the records of one model. -/
inductive Request (model : ModelDefinition) where
  | save (entry : KeyedRecord model)
  | bulkInsert (batch : List (KeyedRecord model))
  | delete (key : String)
  | retrieve (key : String)
  | count

namespace Request

variable {model : ModelDefinition}

/-- What a request that succeeds answers. -/
def Answer : Request model → Type
  | save _ => Record
  | bulkInsert _ => Unit
  | delete _ => Unit
  | retrieve _ => Option Record
  | count => Nat

/-- What a datastore does at a request. -/
def program (store : Datastore) : (request : Request model) → Program request.Answer
  | save entry => store.save entry.object
  | bulkInsert batch => store.bulkInsert model (batch.map KeyedRecord.object)
  | delete key => store.delete model (.string key)
  | retrieve key => store.retrieve model (.string key)
  | count => store.count model

/-- The records after a request. A batch that is not admitted changes nothing. -/
def after (map : RecordMap) : Request model → RecordMap
  | save entry => map.put entry
  | bulkInsert batch => if map.Admits batch then batch.foldl RecordMap.put map else map
  | delete key => map.erase key
  | retrieve _ => map
  | count => map

/-- What is found under a key: the record that was written there, as it is read back, if there is one. -/
def found (store : Datastore) (model : ModelDefinition) (map : RecordMap) (key : String) :
    Except Error (Option Record) :=
  match map.lookup key with
  | some record =>
    (store.codecs.decodeRecord model (store.codecs.encodeRecord model record)).map some
  | none => .ok none

/-- The answer to a request, by the records before it. Saving answers what is then found under the key.
A store counts its rows in a signed word, so a count is told as long as the records are fewer. -/
def Answers (store : Datastore) (map : RecordMap) :
    (request : Request model) → Except Error request.Answer → Prop
  | save entry, answer => answer.map some = found store model (map.put entry) entry.key
  | bulkInsert batch, answer =>
    answer = if map.Admits batch then .ok ()
      else .error (DatabaseFault.notUnique (store.tableName model) model.key.name).error
  | delete _, answer => answer = .ok ()
  | retrieve key, answer => answer = found store model map key
  | count, answer => map.keys.card < 2 ^ 63 → answer = .ok map.keys.card

end Request

/-- A request and its answer. -/
structure Served (model : ModelDefinition) where
  request : Request model
  answer : Except Error request.Answer

namespace Datastore

variable (store : Datastore) {model : ModelDefinition}

/-- Runs requests one after the other over a store, whether they fail or not. -/
def serve {σ : Type} (pool : Pool σ) : σ → List (Request model) → List (Served model)
  | _, [] => []
  | state, request :: rest =>
    ⟨request, ((request.program store).run pool state).1⟩ ::
      serve pool ((request.program store).run pool state).2 rest

/-- Requests that are answered as a map answers them, beginning with some records. -/
def Behaves : RecordMap → List (Served model) → Prop
  | _, [] => True
  | map, served :: rest =>
    served.request.Answers store map served.answer ∧ Behaves (served.request.after map) rest

/-- A request over the table of the entries is answered by the records, and leaves a table that lists
those after it. -/
def Refines (kind : CellKind StoredValue) (map : RecordMap) (entries : List (KeyedRecord model))
    (request : Request model) : Prop :=
  request.Answers store map
      ((request.program store).run (Pool.ofCells kind) (store.databaseOf entries none)).1 ∧
    ∃ others : List (KeyedRecord model),
      ((request.program store).run (Pool.ofCells kind) (store.databaseOf entries none)).2 =
        store.databaseOf others none ∧
      (request.after map).IsListedBy others

/-! ## What requests do -/

variable (kind : CellKind StoredValue)

/-- Counting answers how many entries there are, if a signed word can tell. -/
theorem run_count (entries : List (KeyedRecord model)) (few : entries.length < 2 ^ 63) :
    (store.count model).run (Pool.ofCells kind) (store.databaseOf entries none) =
      (.ok entries.length, store.databaseOf entries none) := by
  have counted := store.answer_countQuery kind entries
  have length : (Int64.ofNat entries.length).toInt = entries.length := Int64.toInt_ofNat_of_lt few
  have told : rowCount? (.integer (Int64.ofNat entries.length)) = some entries.length := by
    rw [rowCount?, length, if_pos (Int.natCast_nonneg _), Int.toNat_natCast]
  rw [store.count_eq_call, Program.run]
  simp only [counted, Option.bind_some, List.lookup_cons_self, told, Program.run]

/-- Counting changes nothing. -/
theorem run_count_snd (entries : List (KeyedRecord model)) :
    ((store.count model).run (Pool.ofCells kind) (store.databaseOf entries none)).2 =
      store.databaseOf entries none := by
  have counted := store.answer_countQuery kind entries
  rw [store.count_eq_call, Program.run]
  simp only [counted]
  split
  · rfl
  · split <;> rfl

variable {kind} (keeps : kind.KeepsValues) (builtin : store.codecs = .default)
  (textual : model.key.type ∈ PropertyType.textual) (entries : List (KeyedRecord model))

include keeps builtin textual

/-- Saving puts the entry among the others and answers its record as it is read back. -/
theorem run_save (entry : KeyedRecord model) :
    (store.save entry.object).run (Pool.ofCells kind) (store.databaseOf entries none) =
      (store.codecs.decodeRecord model (store.codecs.encodeRecord model entry.record),
        store.databaseOf (Table.put KeyedRecord.key entry entries) none) := by
  obtain ⟨changed, written⟩ := store.answer_upsertQuery keeps builtin textual entries entry
  have read := store.answer_keyQuery keeps builtin textual
    (Table.put KeyedRecord.key entry entries) entry.key
  rw [Table.find?_put, if_pos rfl, Option.map_some] at read
  have keyed : entry.object.primaryKey = .ok (.string entry.key) :=
    ModelInstance.primaryKey_eq_ok_iff.2 ⟨entry.record, rfl, entry.holds, nofun⟩
  rw [store.save_of_primaryKey rfl keyed, Program.run]
  simp only [KeyedRecord.object, written]
  rw [readBack, Program.run]
  simp only [read, Program.run]

/-- Retrieving answers the record of the key as it is read back, if there is one. -/
theorem run_retrieve (key : String) :
    (store.retrieve model (.string key)).run (Pool.ofCells kind) (store.databaseOf entries none) =
      (match (entries.find? (·.key == key)).map KeyedRecord.record with
        | some record =>
          (store.codecs.decodeRecord model (store.codecs.encodeRecord model record)).map some
        | none => .ok none,
        store.databaseOf entries none) := by
  have read := store.answer_keyQuery keeps builtin textual entries key
  rw [store.retrieve_eq_call, Program.run]
  cases found : entries.find? (·.key == key) with
  | none =>
    rw [found, Option.map_none] at read
    simp only [read, Program.run]
    rfl
  | some entry =>
    rw [found, Option.map_some] at read
    simp only [read, Program.run]
    rfl

/-- Deleting leaves the entries of other keys. -/
theorem run_delete (key : String) :
    (store.delete model (.string key)).run (Pool.ofCells kind) (store.databaseOf entries none) =
      (.ok (), store.databaseOf (entries.filter (·.key != key)) none) := by
  obtain ⟨changed, deleted⟩ := store.answer_deleteQuery keeps builtin textual entries key
  rw [store.delete_eq_call, Program.run]
  simp only [deleted, Program.run]

/-- A batch of fresh keys is added to the entries. -/
theorem run_bulkInsert {batch : List (KeyedRecord model)}
    (fresh : Table.Fresh KeyedRecord.key batch entries) :
    (store.bulkInsert model (batch.map KeyedRecord.object)).run (Pool.ofCells kind)
        (store.databaseOf entries none) =
      (.ok (), store.databaseOf (entries ++ batch) none) := by
  by_cases nonempty : batch = []
  · subst nonempty
    rw [List.append_nil]
    rfl
  · have inserted := store.answer_batchStatement keeps builtin textual entries nonempty entries fresh
    rw [store.bulkInsert_of_accepted (accepted_of_keyed nonempty), Program.insideTransaction]
    simp only [Program.run, store.answer_begin, inserted, store.answer_commit]
    rfl

/-- A batch of other keys fails and changes nothing. -/
theorem run_bulkInsert_of_not_fresh {batch : List (KeyedRecord model)}
    (stale : ¬Table.Fresh KeyedRecord.key batch entries) :
    (store.bulkInsert model (batch.map KeyedRecord.object)).run (Pool.ofCells kind)
        (store.databaseOf entries none) =
      (.error (DatabaseFault.notUnique (store.tableName model) model.key.name).error,
        store.databaseOf entries none) := by
  have nonempty : batch ≠ [] := by
    rintro rfl
    exact stale ⟨List.nodup_nil, nofun⟩
  have refused := store.answer_batchStatement_of_not_fresh keeps builtin textual entries nonempty
    entries stale
  rw [store.bulkInsert_of_accepted (accepted_of_keyed nonempty), Program.insideTransaction]
  simp only [Program.run, store.answer_begin, refused, store.answer_rollback]

/-! ## Requests over a map -/

variable {entries}

omit keeps builtin textual in
theorem refines_of_run {map : RecordMap} {request : Request model} {answer : Except Error request.Answer}
    {others : List (KeyedRecord model)}
    (ran : (request.program store).run (Pool.ofCells kind) (store.databaseOf entries none) =
      (answer, store.databaseOf others none))
    (answered : request.Answers store map answer) (listed : (request.after map).IsListedBy others) :
    store.Refines kind map entries request := by
  rw [Refines, ran]
  exact ⟨answered, others, rfl, listed⟩

/-- A request is answered by the records and leaves a table that lists those after it. -/
theorem refines {map : RecordMap} (listed : map.IsListedBy entries) (request : Request model) :
    store.Refines kind map entries request := by
  cases request with
  | save entry =>
    refine store.refines_of_run (store.run_save keeps builtin textual entries entry) ?_
      (listed.put entry)
    change _ = Request.found store model (map.put entry) entry.key
    rw [Request.found, RecordMap.put, Finmap.lookup_insert]
    rfl
  | bulkInsert batch =>
    by_cases admitted : map.Admits batch
    · have fresh := listed.fresh_iff.2 admitted
      refine store.refines_of_run (store.run_bulkInsert keeps builtin textual entries fresh)
        (if_pos admitted).symm ?_
      rw [Request.after, if_pos admitted]
      exact listed.append admitted
    · have stale := mt listed.fresh_iff.1 admitted
      refine store.refines_of_run
        (store.run_bulkInsert_of_not_fresh keeps builtin textual entries stale)
        (if_neg admitted).symm ?_
      rwa [Request.after, if_neg admitted]
  | delete key =>
    exact store.refines_of_run (store.run_delete keeps builtin textual entries key) rfl
      (listed.erase key)
  | retrieve key =>
    refine store.refines_of_run (store.run_retrieve keeps builtin textual entries key) ?_ listed
    change _ = Request.found store model map key
    rw [Request.found, listed.lookup key]
  | count =>
    refine ⟨fun few => ?_, entries, store.run_count_snd kind entries, listed⟩
    rw [listed.card_keys] at few ⊢
    exact congrArg Prod.fst (store.run_count kind entries few)

/-- Requests are answered one after the other as the records in the table tell. -/
theorem behaves_serve_of_isListedBy {map : RecordMap} (listed : map.IsListedBy entries)
    (requests : List (Request model)) :
    store.Behaves map (store.serve (Pool.ofCells kind) (store.databaseOf entries none) requests) := by
  induction requests generalizing map entries with
  | nil => trivial
  | cons request rest ih =>
    obtain ⟨answered, others, left, after⟩ := store.refines keeps builtin textual listed request
    refine ⟨answered, ?_⟩
    rw [left]
    exact ih after

omit keeps builtin textual in
/-- Every sequence of requests over an empty table is answered as a map answers it. -/
theorem behaves_serve {store : Datastore} (builtin : store.codecs = .default) {model : ModelDefinition}
    (textual : model.key.type ∈ PropertyType.textual) {kind : CellKind StoredValue}
    (keeps : kind.KeepsValues) (requests : List (Request model)) :
    store.Behaves ∅ (store.serve (Pool.ofCells kind)
      (Database.ofTables [(store.tableName model, model.columns, model.key.name)]) requests) :=
  store.behaves_serve_of_isListedBy keeps builtin textual RecordMap.isListedBy_nil requests

omit keeps builtin textual in
/-- Notes that are saved, inserted over each other, deleted and counted, with the order and the patterns
of the store in memory. -/
theorem behaves_serve_notes :
    let model : ModelDefinition := ⟨"Note", [⟨"id", .uniqueId, true⟩, ⟨"text", .text, true⟩],
      ⟨0, by decide⟩, by decide, by decide⟩
    let store : Datastore := ⟨.sqlite, {}⟩
    let kind := CellKind.kept (fun left right => Cell.order (.ofStored left) (.ofStored right))
      (fun left right => Cell.like (.ofStored left) (.ofStored right))
      (fun left right => Cell.like (.ofStored left) (.ofStored right))
    let note (key text : String) : KeyedRecord model :=
      ⟨[("id", .string key), ("text", .string text)], key, rfl⟩
    store.Behaves ∅ (store.serve (Pool.ofCells kind)
      (Database.ofTables [(store.tableName model, model.columns, model.key.name)])
      [.save (note "a" "x"), .bulkInsert [note "b" "y", note "a" "z"], .retrieve "b", .save (note "a" "w"),
        .delete "c", .retrieve "a", .count]) := by
  intro model store kind note
  have textual : model.key.type ∈ PropertyType.textual := by decide
  exact behaves_serve rfl textual (CellKind.keepsValues_kept Cell.order_text_eq_iff _ _) _

end Datastore

end RecordStore
