import RecordStore.Proofs.Except
import RecordStore.Proofs.Store.Exchange
import RecordStore.Proofs.Store.Statements

/-!
# Batches

A batch is inserted by one statement in one transaction, or nothing of it is. `Datastore.BatchCourse`
lists all that a batch can ask of a store, and `Datastore.bulkInsert_atomic` says that these are its
courses over every store, whichever of its calls fail, and what then becomes of the rows.
-/

namespace RecordStore

/-- Runs a statement in a transaction of its own. A rollback that fails does not hide why the statement
did. -/
def Program.insideTransaction (statement : Statement) : Program Unit :=
  .call .begin fun
    | .error error => .done (.error error)
    | .ok _ => .call (.executeInside statement) fun
      | .error error => .call .rollback fun _ => .done (.error error)
      | .ok _ => .call .commit .done

/-! ## Rows that are seen -/

/-- The rows of a table in a store that shows the rows of a transaction when it is committed. -/
structure Ledger where
  /-- The rows that are seen. -/
  visible : List StoredRow
  /-- The rows that the open transaction has inserted. -/
  pending : List StoredRow

/-- The rows after an exchange. A call that fails inserts nothing, and a transaction that ends without
a commit leaves nothing. -/
def Ledger.after (table : String) (ledger : Ledger) : Exchange → Ledger
  | ⟨.execute statement, .ok _⟩ =>
    { ledger with visible := ledger.visible ++ statement.insertedRows table }
  | ⟨.begin, .ok _⟩ => { ledger with pending := [] }
  | ⟨.executeInside statement, .ok _⟩ =>
    { ledger with pending := ledger.pending ++ statement.insertedRows table }
  | ⟨.commit, .ok _⟩ => ⟨ledger.visible ++ ledger.pending, []⟩
  | ⟨.commit, .error _⟩ => { ledger with pending := [] }
  | ⟨.rollback, _⟩ => { ledger with pending := [] }
  | _ => ledger

namespace Datastore

variable (store : Datastore) (model : ModelDefinition) (batch : List ModelInstance)

/-! ## Records of a batch -/

/-- A batch that is put to a store: it is not empty, its instances belong to the model by its name, and
these are the records they produce. -/
structure Accepted (records : List Record) : Prop where
  nonempty : batch ≠ []
  homogeneous : ∀ object ∈ batch, object.model.name = model.name
  produced : batch.map ModelInstance.record = records.map Except.ok

variable {model batch} in
theorem Accepted.records_ne_nil {records : List Record} (accepted : Accepted model batch records) :
    records ≠ [] := by
  rintro rfl
  exact accepted.nonempty (List.map_eq_nil_iff.1 accepted.produced)

variable {model batch} in
theorem Accepted.mem_records {records : List Record} (accepted : Accepted model batch records)
    {record : Record} : record ∈ records ↔ ∃ object ∈ batch, object.record = .ok record := by
  have same : Except.ok record ∈ batch.map ModelInstance.record ↔
      Except.ok record ∈ records.map (Except.ok : Record → Except Error Record) := by
    rw [accepted.produced]
  simpa using same.symm

variable {model batch} in
theorem modelNames_of_forall (same : ∀ object ∈ batch, object.model.name = model.name) :
    modelNames model batch = [model.name] := by
  unfold modelNames
  induction batch with
  | nil => rfl
  | cons object rest ih =>
    have here := same object List.mem_cons_self
    rw [List.foldl_cons, if_pos (List.mem_singleton.2 here)]
    exact ih fun other member => same other (List.mem_cons_of_mem _ member)

/-- No name is dropped once it was seen, and every model of the batch is named. -/
theorem mem_modelNames {name : String} :
    name ∈ modelNames model batch ↔ name = model.name ∨ ∃ object ∈ batch, object.model.name = name := by
  suffices general : ∀ seen : List String, name ∈ batch.foldl (fun names object =>
      if object.model.name ∈ names then names else names ++ [object.model.name]) seen ↔
        name ∈ seen ∨ ∃ object ∈ batch, object.model.name = name by
    simpa only [modelNames, List.mem_singleton] using general [model.name]
  induction batch with
  | nil => simp
  | cons object rest ih =>
    intro seen
    rw [List.foldl_cons, ih]
    split <;> grind

variable {model batch} in
/-- A batch with a foreign instance has more than one name. -/
theorem one_lt_length_modelNames {object : ModelInstance} (member : object ∈ batch)
    (foreign : object.model.name ≠ model.name) : 1 < (modelNames model batch).length := by
  have own := (mem_modelNames model batch).2 (.inl rfl)
  have other := (mem_modelNames model batch).2 (.inr ⟨object, member, rfl⟩)
  match names : modelNames model batch with
  | [] => simp [names] at own
  | [name] =>
    rw [names, List.mem_singleton] at own other
    exact absurd (other.trans own.symm) foreign
  | _ :: _ :: _ => simp

/-! ## The course of a batch -/

/-- The statement that inserts records of a model. -/
def batchStatement (records : List Record) : Statement :=
  store.statement (store.insertQuery model (records.map (store.codecs.encodeValues model)))

variable {model batch} in
/-- A batch that is accepted is one statement in a transaction. -/
theorem bulkInsert_of_accepted {records : List Record} (accepted : Accepted model batch records) :
    store.bulkInsert model batch = .insideTransaction (store.batchStatement model records) := by
  simp only [bulkInsert, List.isEmpty_eq_false_iff.2 accepted.nonempty,
    modelNames_of_forall accepted.homogeneous, mapM_eq_ok_iff_map.2 accepted.produced,
    Program.lift, Program.ok_bind, Bool.false_eq_true, if_false, List.length_singleton, Nat.lt_irrefl,
    Program.pure_eq]
  refine congrArg (Program.call .begin) (funext fun began => ?_)
  cases began with
  | error error => rfl
  | ok _ =>
    refine congrArg (Program.call (.executeInside _)) (funext fun executed => ?_)
    cases executed <;> rfl

variable {model batch} in
theorem bulkInsert_of_foreign {object : ModelInstance} (member : object ∈ batch)
    (foreign : object.model.name ≠ model.name) :
    store.bulkInsert model batch = .done (.error (.heterogeneousBatch (modelNames model batch))) := by
  have nonempty := List.ne_nil_of_mem member
  simp only [bulkInsert, List.isEmpty_eq_false_iff.2 nonempty, Bool.false_eq_true, if_false,
    one_lt_length_modelNames member foreign, if_true, Program.fail]
  rfl

variable {model batch} in
theorem bulkInsert_of_error (nonempty : batch ≠ [])
    (same : ∀ object ∈ batch, object.model.name = model.name) {error : Error}
    (failed : batch.mapM ModelInstance.record = .error error) :
    store.bulkInsert model batch = .done (.error error) := by
  simp only [bulkInsert, List.isEmpty_eq_false_iff.2 nonempty, modelNames_of_forall same, failed,
    Bool.false_eq_true, if_false, List.length_singleton, Nat.lt_irrefl]
  rfl

/-- A batch ends before its first call, or it is accepted and put to the store. -/
theorem bulkInsert_cases :
    (batch = [] ∧ store.bulkInsert model batch = .done (.ok ())) ∨
    (∃ object ∈ batch, object.model.name ≠ model.name ∧
      store.bulkInsert model batch = .done (.error (.heterogeneousBatch (modelNames model batch)))) ∨
    (∃ object ∈ batch, ∃ error, (∀ object ∈ batch, object.model.name = model.name) ∧
      object.record = .error error ∧ store.bulkInsert model batch = .done (.error error)) ∨
    ∃ records, Accepted model batch records ∧
      store.bulkInsert model batch = .insideTransaction (store.batchStatement model records) := by
  by_cases nonempty : batch = []
  · subst nonempty
    exact .inl ⟨rfl, rfl⟩
  by_cases foreign : ∃ object ∈ batch, object.model.name ≠ model.name
  · obtain ⟨object, member, foreign⟩ := foreign
    exact .inr (.inl ⟨object, member, foreign, store.bulkInsert_of_foreign member foreign⟩)
  · have same (object : ModelInstance) (member : object ∈ batch) : object.model.name = model.name :=
      Decidable.byContradiction fun other => foreign ⟨object, member, other⟩
    cases produced : batch.mapM ModelInstance.record with
    | error error =>
      obtain ⟨object, member, why⟩ := exists_error_of_mapM produced
      exact .inr (.inr (.inl ⟨object, member, error, same, why,
        store.bulkInsert_of_error nonempty same produced⟩))
    | ok records =>
      have accepted : Accepted model batch records := ⟨nonempty, same, mapM_eq_ok_iff_map.1 produced⟩
      exact .inr (.inr (.inr ⟨records, accepted, store.bulkInsert_of_accepted accepted⟩))

/-- The statement inserts the rows of records, in their order, into the table of the model. -/
def Carries (records : List Record) (statement : Statement) : Prop :=
  Command.ofStatement? statement =
    some (.insert (store.tableName model) (some model.columns)
      (records.map (store.codecs.encodeValues model)) none)

variable {batch} in
theorem carries_batchStatement {records : List Record} (accepted : Accepted model batch records) :
    store.Carries model records (store.batchStatement model records) := by
  refine store.command_insertQuery model (mt List.map_eq_nil_iff.1 accepted.records_ne_nil) ?_
  intro row member
  obtain ⟨record, -, rfl⟩ := List.mem_map.1 member
  exact store.codecs.encodeValues_ne_nil model record

variable {model} in
theorem insertedRows_of_carries {records : List Record} {statement : Statement}
    (carries : store.Carries model records statement) (table : String) :
    statement.insertedRows table = if store.tableName model = table then
      records.map (store.codecs.encodeRecord model) else [] := by
  rw [Statement.insertedRows_of_command carries, Command.insertedRows, List.map_map]
  rfl

/-- What a batch asks of a store, the answers, and what comes of it. -/
inductive BatchCourse : List Exchange → Except Error Unit → Prop
  | empty : batch = [] → BatchCourse [] (.ok ())
  /-- Some instance belongs to another model. -/
  | rejected {object : ModelInstance} : object ∈ batch → object.model.name ≠ model.name →
    BatchCourse [] (.error (.heterogeneousBatch (modelNames model batch)))
  /-- Some instance fails to produce its record. -/
  | unproduced {object : ModelInstance} {error : Error} :
    (∀ object ∈ batch, object.model.name = model.name) → object ∈ batch →
    object.record = .error error → BatchCourse [] (.error error)
  /-- The store begins no transaction. -/
  | refused {records : List Record} {error : Error} : Accepted model batch records →
    BatchCourse [⟨.begin, .error error⟩] (.error error)
  /-- The rows are inserted, and the commit decides. -/
  | ended {records : List Record} {statement : Statement} {affected : Nat}
    {ending : Except Error Unit} : Accepted model batch records →
    store.Carries model records statement →
    BatchCourse [⟨.begin, .ok ()⟩, ⟨.executeInside statement, .ok affected⟩, ⟨.commit, ending⟩] ending
  /-- The rows are refused, whatever comes of the rollback. -/
  | undone {records : List Record} {statement : Statement} {error : Error}
    {ending : Except Error Unit} : Accepted model batch records →
    store.Carries model records statement →
    BatchCourse [⟨.begin, .ok ()⟩, ⟨.executeInside statement, .error error⟩, ⟨.rollback, ending⟩]
      (.error error)

variable {σ : Type} (pool : Pool σ) (state : σ)

/-- Every run of a batch takes one of its courses. -/
theorem batchCourse_bulkInsert :
    store.BatchCourse model batch ((store.bulkInsert model batch).exchanges pool state)
      ((store.bulkInsert model batch).run pool state).1 := by
  obtain ⟨none, ended⟩ | ⟨object, member, foreign, ended⟩ | ⟨object, member, error, same, why, ended⟩ |
    ⟨records, accepted, put⟩ := store.bulkInsert_cases model batch
  · rw [ended]
    exact .empty none
  · rw [ended]
    exact .rejected member foreign
  · rw [ended]
    exact .unproduced same member why
  · have carries := store.carries_batchStatement model accepted
    rw [put]
    simp only [Program.insideTransaction, Program.exchanges, Program.run]
    -- each answer of the store decides which call is next
    cases began : (pool.answer state .begin).1 with
    | error error => exact .refused accepted
    | ok _ =>
      simp only [Program.exchanges, Program.run]
      cases executed : (pool.answer (pool.answer state .begin).2
          (.executeInside (store.batchStatement model records))).1 with
      | error error => exact .undone accepted carries
      | ok affected => exact .ended accepted carries

/-! ## What comes of a batch -/

namespace BatchCourse

variable {store model batch} {exchanges : List Exchange} {result : Except Error Unit}
  (course : store.BatchCourse model batch exchanges result)

include course

/-- A batch succeeds exactly if it is empty or its commit does. -/
theorem eq_ok_iff : result = .ok () ↔ batch = [] ∨ ⟨.commit, .ok ()⟩ ∈ exchanges := by
  cases course with
  | empty none => exact iff_of_true rfl (.inl none)
  | rejected member => simp [List.ne_nil_of_mem member]
  | unproduced _ member => simp [List.ne_nil_of_mem member]
  | @refused records error accepted =>
    have uncommitted : (⟨.commit, .ok ()⟩ : Exchange) ∉ [⟨.begin, .error error⟩] :=
      Exchange.not_mem_of_call (by simp) _
    simp [accepted.nonempty, uncommitted]
  | @undone records statement error ending accepted =>
    have uncommitted : (⟨.commit, .ok ()⟩ : Exchange) ∉
        [⟨.begin, .ok ()⟩, ⟨.executeInside statement, .error error⟩, ⟨.rollback, ending⟩] :=
      Exchange.not_mem_of_call (by simp) _
    simp [accepted.nonempty, uncommitted]
  | ended accepted =>
    constructor
    · rintro rfl
      exact .inr (List.mem_cons_of_mem _ (List.mem_cons_of_mem _ List.mem_cons_self))
    · rintro (none | committed)
      · exact absurd none accepted.nonempty
      · simp only [List.mem_cons, List.not_mem_nil, or_false] at committed
        rcases committed with same | same | same <;> cases same
        rfl

/-- When the statement fails, its error is told, whatever comes of the rollback. -/
theorem eq_error_of_mem {statement : Statement} {error : Error}
    (failed : ⟨.executeInside statement, .error error⟩ ∈ exchanges) : result = .error error := by
  cases course with
  | empty => cases failed
  | rejected => cases failed
  | unproduced => cases failed
  | refused => cases List.mem_singleton.1 failed
  | ended =>
    simp only [List.mem_cons, List.not_mem_nil, or_false] at failed
    rcases failed with same | same | same <;> cases same
  | undone =>
    simp only [List.mem_cons, List.not_mem_nil, or_false] at failed
    rcases failed with same | same | same <;> cases same
    rfl

/-- After a success the rows of the batch are seen. -/
theorem visible_of_ok (rows : List StoredRow) (succeeded : result = .ok ()) :
    ∃ records : List Record, batch.map ModelInstance.record = records.map Except.ok ∧
      (exchanges.foldl (Ledger.after (store.tableName model)) ⟨rows, []⟩).visible =
        rows ++ records.map (store.codecs.encodeRecord model) := by
  cases course with
  | empty none =>
    subst none
    exact ⟨[], rfl, (List.append_nil rows).symm⟩
  | rejected => cases succeeded
  | unproduced => cases succeeded
  | refused => cases succeeded
  | undone => cases succeeded
  | @ended records _ _ _ accepted carries =>
    subst succeeded
    refine ⟨records, accepted.produced, ?_⟩
    simp only [List.foldl_cons, List.foldl_nil, Ledger.after, List.nil_append,
      store.insertedRows_of_carries carries, if_true]

/-- After a failure no more rows are seen than before. -/
theorem visible_of_error (rows : List StoredRow) {error : Error} (failed : result = .error error) :
    (exchanges.foldl (Ledger.after (store.tableName model)) ⟨rows, []⟩).visible = rows := by
  cases course with
  | empty => cases failed
  | rejected => rfl
  | unproduced => rfl
  | refused => rfl
  | undone => rfl
  | ended =>
    subst failed
    rfl

end BatchCourse

/-- A batch is inserted as a whole or not at all over every store, whichever of its calls fail. It takes
one of the courses above and succeeds exactly if it is empty or its commit does; the error of a
statement that fails is told also when the rollback fails; and where rows are seen when their
transaction is committed, all rows of the batch are seen after a success and no other row than before
after a failure. -/
theorem bulkInsert_atomic (rows : List StoredRow) :
    let exchanges := (store.bulkInsert model batch).exchanges pool state
    let result := ((store.bulkInsert model batch).run pool state).1
    let ledger := exchanges.foldl (Ledger.after (store.tableName model)) ⟨rows, []⟩
    store.BatchCourse model batch exchanges result ∧
    (result = .ok () ↔ batch = [] ∨ ⟨.commit, .ok ()⟩ ∈ exchanges) ∧
    (∀ statement error, ⟨.executeInside statement, .error error⟩ ∈ exchanges →
      result = .error error) ∧
    (result = .ok () → ∃ records : List Record,
      batch.map ModelInstance.record = records.map Except.ok ∧
      ledger.visible = rows ++ records.map (store.codecs.encodeRecord model)) ∧
    (∀ error, result = .error error → ledger.visible = rows) := by
  intro exchanges result ledger
  have course : store.BatchCourse model batch exchanges result :=
    store.batchCourse_bulkInsert model batch pool state
  exact ⟨course, course.eq_ok_iff, fun _ _ => course.eq_error_of_mem, course.visible_of_ok rows,
    fun _ => course.visible_of_error rows⟩

end Datastore

end RecordStore
