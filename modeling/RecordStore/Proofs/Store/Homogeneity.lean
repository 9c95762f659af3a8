import Mathlib.Data.List.Induction
import Mathlib.Data.List.Sort
import RecordStore.Proofs.Store.Failures

/-!
# Homogeneous batches

A batch is rejected for the models of its instances alone. `ForeignNames` says which names are reported
with that of the model and in which order, and `Datastore.Rejects` that the names of the instances have
settled the matter: with them the batch ends in the same error before its first call, whatever records
its instances would produce. Over every store a batch is rejected exactly if some instance is foreign
(`Datastore.bulkInsert_rejects_iff`).
-/

namespace RecordStore

/-- The names other than `own` among some names, each once, in the order in which they first occur. -/
structure ForeignNames (own : String) (names others : List String) : Prop where
  mem_iff : ∀ name, name ∈ others ↔ name ∈ names ∧ name ≠ own
  inOrder : others.Pairwise fun first later => names.idxOf first < names.idxOf later

namespace ForeignNames

theorem nil (own : String) : ForeignNames own [] [] :=
  ⟨fun _ => iff_of_false List.not_mem_nil fun ⟨member, _⟩ => List.not_mem_nil member, .nil⟩

variable {own : String} {names others : List String} (foreign : ForeignNames own names others)

include foreign

/-- There is one such list. -/
theorem unique {others' : List String} (foreign' : ForeignNames own names others') :
    others = others' := by
  have : Std.Irrefl fun first later => names.idxOf first < names.idxOf later :=
    ⟨fun _ => Nat.lt_irrefl _⟩
  have : Std.Antisymm fun first later => names.idxOf first < names.idxOf later :=
    ⟨fun _ _ before after => absurd after (Nat.lt_asymm before)⟩
  exact foreign.inOrder.eq_of_mem_iff foreign'.inOrder fun name =>
    (foreign.mem_iff name).trans (foreign'.mem_iff name).symm

theorem ne_nil_iff : others ≠ [] ↔ ∃ name ∈ names, name ≠ own := by
  rw [Ne, List.eq_nil_iff_forall_not_mem, not_forall_not]
  exact exists_congr foreign.mem_iff

/-- More names do not move the first occurrences of those before them. -/
theorem inOrder_append (more : List String) :
    others.Pairwise fun first later => (names ++ more).idxOf first < (names ++ more).idxOf later := by
  refine foreign.inOrder.imp_of_mem fun {first later} member member' before => ?_
  rwa [List.idxOf_append_of_mem ((foreign.mem_iff first).1 member).1,
    List.idxOf_append_of_mem ((foreign.mem_iff later).1 member').1]

/-- A name that was seen changes nothing. -/
theorem append_seen {name : String} (seen : name ∈ own :: others) :
    ForeignNames own (names ++ [name]) others := by
  refine ⟨fun other => ?_, foreign.inOrder_append [name]⟩
  rw [foreign.mem_iff, List.mem_append, List.mem_singleton]
  refine ⟨fun ⟨member, ne⟩ => ⟨.inl member, ne⟩, ?_⟩
  rintro ⟨member | rfl, ne⟩
  · exact ⟨member, ne⟩
  · exact (foreign.mem_iff other).1 ((List.mem_cons.1 seen).resolve_left ne)

/-- A name that was not seen comes last. -/
theorem append_new {name : String} (new : name ∉ own :: others) :
    ForeignNames own (names ++ [name]) (others ++ [name]) := by
  obtain ⟨ne, unseen⟩ := List.ne_and_not_mem_of_not_mem_cons new
  have absent : name ∉ names := fun member => unseen ((foreign.mem_iff name).2 ⟨member, ne⟩)
  refine ⟨fun other => ?_, List.pairwise_append.2 ⟨foreign.inOrder_append [name], by simp, ?_⟩⟩
  · rw [List.mem_append, List.mem_append, List.mem_singleton, foreign.mem_iff]
    constructor
    · rintro (⟨member, ne⟩ | rfl)
      · exact ⟨.inl member, ne⟩
      · exact ⟨.inr rfl, ne⟩
    · rintro ⟨member | rfl, ne⟩
      · exact .inl ⟨member, ne⟩
      · exact .inr rfl
  · intro first member last lastMember
    obtain rfl := List.mem_singleton.1 lastMember
    have occurs := ((foreign.mem_iff first).1 member).1
    rw [List.idxOf_append_of_mem occurs, List.idxOf_append_of_notMem absent]
    exact Nat.lt_add_right _ (List.idxOf_lt_length_of_mem occurs)

end ForeignNames

namespace Datastore

/-- The names of the models of the instances of a batch, in their order. -/
def instanceNames (batch : List ModelInstance) : List String :=
  batch.map fun object => object.model.name

theorem modelNames_append (model : ModelDefinition) (batch : List ModelInstance)
    (object : ModelInstance) :
    modelNames model (batch ++ [object]) =
      if object.model.name ∈ modelNames model batch then modelNames model batch
      else modelNames model batch ++ [object.model.name] := by
  rw [modelNames, List.foldl_append]
  rfl

/-- The names of a batch are that of the model and then the foreign ones. -/
theorem exists_modelNames_eq (model : ModelDefinition) (batch : List ModelInstance) :
    ∃ others, modelNames model batch = model.name :: others ∧
      ForeignNames model.name (instanceNames batch) others := by
  -- names are added at the end while the batch is gone through, so the last instance decides last
  induction batch using List.reverseRecOn with
  | nil => exact ⟨[], rfl, .nil _⟩
  | append_singleton batch object ih =>
    obtain ⟨others, names, foreign⟩ := ih
    have extended : instanceNames (batch ++ [object]) = instanceNames batch ++ [object.model.name] :=
      List.map_append
    rw [modelNames_append, names, extended]
    by_cases seen : object.model.name ∈ model.name :: others
    · exact ⟨others, if_pos seen, foreign.append_seen seen⟩
    · exact ⟨others ++ [object.model.name], if_neg seen, foreign.append_new seen⟩

theorem exists_foreign_iff {model : ModelDefinition} {batch : List ModelInstance} :
    (∃ name ∈ instanceNames batch, name ≠ model.name) ↔
      ∃ object ∈ batch, object.model.name ≠ model.name := by
  simp [instanceNames]

end Datastore

/-! ## Transactions that fail -/

/-- What a store answered it answers in some state. -/
theorem Program.exists_answer_of_mem {σ α : Type} {pool : Pool σ} {state : σ} {program : Program α}
    {exchange : Exchange} (member : exchange ∈ program.exchanges pool state) :
    ∃ asked, (pool.answer asked exchange.call).1 = exchange.answer := by
  induction program generalizing state with
  | done result => cases member
  | call request next ih =>
    obtain rfl | later := List.mem_cons.1 member
    · exact ⟨state, rfl⟩
    · exact ih _ later

/-- A transaction of one statement fails exactly if a call other than its rollback does, with the error
of that call. -/
theorem Program.run_insideTransaction_eq_error_iff {σ : Type} (pool : Pool σ) (state : σ)
    (statement : Statement) (error : Error) :
    ((Program.insideTransaction statement).run pool state).1 = .error error ↔
      ∃ call ≠ Call.rollback,
        ⟨call, .error error⟩ ∈ (Program.insideTransaction statement).exchanges pool state := by
  constructor
  · simp only [insideTransaction, exchanges, run]
    cases began : (pool.answer state .begin).1 with
    | error other =>
      rintro ⟨⟩
      exact ⟨.begin, by simp, List.mem_cons_self⟩
    | ok _ =>
      simp only [exchanges, run]
      cases executed : (pool.answer (pool.answer state .begin).2 (.executeInside statement)).1 with
      | error other =>
        rintro ⟨⟩
        exact ⟨.executeInside statement, by simp, List.mem_cons_of_mem _ List.mem_cons_self⟩
      | ok _ =>
        intro failed
        have failed : (pool.answer _ Call.commit).1 = .error error := failed
        refine ⟨.commit, by simp, List.mem_cons_of_mem _ (List.mem_cons_of_mem _ ?_)⟩
        rw [← failed]
        exact List.mem_cons_self
  · rintro ⟨call, other, member⟩
    obtain ⟨before, after, asked⟩ := List.append_of_mem member
    exact ((failsFast_insideTransaction statement).of_exchanges asked other).1

namespace Datastore

variable (store : Datastore) (model : ModelDefinition) (batch : List ModelInstance)

/-- Whether a batch is rejected with a list of names for the models of its instances alone: every batch
of the same models ends with that error before its first call, whatever comes of its records. -/
def Rejects (names : List String) : Prop :=
  ∀ batch', instanceNames batch' = instanceNames batch →
    store.bulkInsert model batch' = .done (.error (.heterogeneousBatch names))

variable {store model batch} in
theorem Rejects.run {names : List String} (rejected : store.Rejects model batch names) {σ : Type}
    (pool : Pool σ) (state : σ) :
    (store.bulkInsert model batch).run pool state = (.error (.heterogeneousBatch names), state) ∧
      (store.bulkInsert model batch).exchanges pool state = [] := by
  rw [rejected batch rfl]
  exact ⟨rfl, rfl⟩

/-- The instances of a batch with empty records. -/
def blankRecords : List ModelInstance :=
  batch.map fun object => { object with record := .ok [] }

variable {model batch} in
theorem accepted_blankRecords (nonempty : batch ≠ [])
    (same : ∀ object ∈ batch, object.model.name = model.name) :
    Accepted model (blankRecords batch) (batch.map fun _ => []) := by
  refine ⟨mt List.map_eq_nil_iff.1 nonempty, fun object member => ?_, ?_⟩
  · obtain ⟨original, present, rfl⟩ := List.mem_map.1 member
    exact same original present
  · rw [blankRecords, List.map_map, List.map_map]
    rfl

/-- A batch without a foreign instance is not rejected: with empty records it is put to the store. -/
theorem not_rejects_of_homogeneous (same : ∀ object ∈ batch, object.model.name = model.name)
    (names : List String) : ¬ store.Rejects model batch names := by
  intro rejected
  have ended := rejected (blankRecords batch) (List.map_map)
  by_cases none : batch = []
  · subst none
    cases ended
  · rw [store.bulkInsert_of_accepted (accepted_blankRecords none same)] at ended
    cases ended

theorem rejects_iff (names : List String) :
    store.Rejects model batch names ↔ ∃ others, others ≠ [] ∧
      ForeignNames model.name (instanceNames batch) others ∧ names = model.name :: others := by
  constructor
  · intro rejected
    obtain ⟨object, member, foreign⟩ : ∃ object ∈ batch, object.model.name ≠ model.name := by
      by_contra none
      push Not at none
      exact store.not_rejects_of_homogeneous model batch none names rejected
    obtain ⟨others, reported, spec⟩ := exists_modelNames_eq model batch
    have ended := rejected batch rfl
    rw [store.bulkInsert_of_foreign member foreign, reported] at ended
    cases ended
    exact ⟨others, spec.ne_nil_iff.2 (exists_foreign_iff.2 ⟨object, member, foreign⟩), spec, rfl⟩
  · rintro ⟨others, nonempty, spec, rfl⟩ batch' same
    rw [← same] at spec
    obtain ⟨object, member, foreign⟩ := exists_foreign_iff.1 (spec.ne_nil_iff.1 nonempty)
    obtain ⟨others', reported, spec'⟩ := exists_modelNames_eq model batch'
    rw [store.bulkInsert_of_foreign member foreign, reported, spec'.unique spec]

theorem exists_rejects_iff :
    (∃ names, store.Rejects model batch names) ↔ ∃ object ∈ batch, object.model.name ≠ model.name := by
  obtain ⟨others, -, spec⟩ := exists_modelNames_eq model batch
  rw [← exists_foreign_iff, ← spec.ne_nil_iff]
  constructor
  · rintro ⟨names, rejected⟩
    obtain ⟨others', nonempty, spec', -⟩ := (store.rejects_iff model batch names).1 rejected
    rwa [spec.unique spec']
  · exact fun nonempty => ⟨_, (store.rejects_iff model batch _).2 ⟨others, nonempty, spec, rfl⟩⟩

/-- A batch is put to the store exactly if it is accepted. -/
theorem exists_insideTransaction_iff :
    (∃ statement, store.bulkInsert model batch = .insideTransaction statement) ↔
      ∃ records, Accepted model batch records := by
  constructor
  · rintro ⟨statement, put⟩
    obtain ⟨-, ended⟩ | ⟨_, -, -, ended⟩ | ⟨_, -, _, -, -, ended⟩ | ⟨records, accepted, -⟩ :=
      store.bulkInsert_cases model batch
    · cases put.symm.trans ended
    · cases put.symm.trans ended
    · cases put.symm.trans ended
    · exact ⟨records, accepted⟩
  · rintro ⟨records, accepted⟩
    exact ⟨_, store.bulkInsert_of_accepted accepted⟩

section Run

variable {σ : Type} (pool : Pool σ) (state : σ)

variable {model batch} in
/-- A batch without a foreign instance fails with the error of the first record that is not produced, or
with that of a call. -/
theorem run_bulkInsert_eq_error_iff (same : ∀ object ∈ batch, object.model.name = model.name)
    (error : Error) :
    ((store.bulkInsert model batch).run pool state).1 = .error error ↔
      batch.mapM ModelInstance.record = .error error ∨
      ∃ call ≠ Call.rollback,
        ⟨call, .error error⟩ ∈ (store.bulkInsert model batch).exchanges pool state := by
  by_cases none : batch = []
  · subst none
    refine iff_of_false nofun ?_
    rintro (failed | ⟨_, -, member⟩)
    · cases failed
    · cases member
  · cases produced : batch.mapM ModelInstance.record with
    | error other =>
      rw [store.bulkInsert_of_error none same produced]
      constructor
      · rintro ⟨⟩
        exact .inl rfl
      · rintro (failed | ⟨_, -, member⟩)
        · cases failed
          rfl
        · cases member
    | ok records =>
      rw [store.bulkInsert_of_accepted ⟨none, same, mapM_eq_ok_iff_map.1 produced⟩,
        Program.run_insideTransaction_eq_error_iff, or_iff_right nofun]

/-- Who says that a batch is heterogeneous: the datastore, which rejects it, or, when no instance is
foreign, a record or the store itself. -/
theorem run_bulkInsert_eq_heterogeneousBatch_iff (names : List String) :
    ((store.bulkInsert model batch).run pool state).1 = .error (.heterogeneousBatch names) ↔
      store.Rejects model batch names ∨
      (∀ object ∈ batch, object.model.name = model.name) ∧
        (batch.mapM ModelInstance.record = .error (.heterogeneousBatch names) ∨
        ∃ call ≠ Call.rollback, ⟨call, .error (.heterogeneousBatch names)⟩ ∈
          (store.bulkInsert model batch).exchanges pool state) := by
  by_cases same : ∀ object ∈ batch, object.model.name = model.name
  · have never := store.not_rejects_of_homogeneous model batch same names
    rw [store.run_bulkInsert_eq_error_iff pool state same, or_iff_right never, and_iff_right same]
  · have foreign : ∃ object ∈ batch, object.model.name ≠ model.name := by
      push Not at same
      exact same
    obtain ⟨reported, rejected⟩ := (store.exists_rejects_iff model batch).2 foreign
    rw [or_iff_left fun told => same told.1, (rejected.run pool state).1]
    constructor
    · rintro ⟨⟩
      exact rejected
    · intro rejected'
      rw [← (rejected.run pool state).1, (rejected'.run pool state).1]

end Run

/-- Batches are accepted exactly if they are homogeneous, over every store and whatever comes of their
records. A batch is rejected exactly if some instance is foreign, wherever it stands, and where neither a
record nor the store tells that error itself, it fails with it exactly then. The names that are
reported are that of the model and then the others in the order in which they first occur, each once. A
batch that is rejected has asked nothing of the store, and one with produced records that is not is put
to the store. -/
theorem bulkInsert_rejects_iff {σ : Type} (pool : Pool σ) (state : σ) :
    let ran := (store.bulkInsert model batch).run pool state
    let exchanges := (store.bulkInsert model batch).exchanges pool state
    ((∃ names, store.Rejects model batch names) ↔ ∃ object ∈ batch, object.model.name ≠ model.name) ∧
    (∀ names, store.Rejects model batch names ↔ ∃ others, others ≠ [] ∧
      ForeignNames model.name (instanceNames batch) others ∧ names = model.name :: others) ∧
    (∀ names, store.Rejects model batch names →
      ran = (.error (.heterogeneousBatch names), state) ∧ exchanges = []) ∧
    (∀ names, ran.1 = .error (.heterogeneousBatch names) ↔ store.Rejects model batch names ∨
      (∀ object ∈ batch, object.model.name = model.name) ∧
        (batch.mapM ModelInstance.record = .error (.heterogeneousBatch names) ∨
        ∃ call ≠ Call.rollback, ⟨call, .error (.heterogeneousBatch names)⟩ ∈ exchanges)) ∧
    (pool.FailsAsDatabase →
      (∀ object ∈ batch, ∀ names, object.record ≠ .error (.heterogeneousBatch names)) →
      ((∃ names, ran.1 = .error (.heterogeneousBatch names)) ↔
        ∃ object ∈ batch, object.model.name ≠ model.name)) ∧
    (∀ batch', (instanceNames batch').Perm (instanceNames batch) →
      ((∃ names, store.Rejects model batch' names) ↔ ∃ names, store.Rejects model batch names)) ∧
    ((∃ statement, store.bulkInsert model batch = .insideTransaction statement) ↔
      ∃ records, Accepted model batch records) := by
  intro ran exchanges
  have told := store.run_bulkInsert_eq_heterogeneousBatch_iff model batch pool state
  have rejected := store.exists_rejects_iff model batch
  refine ⟨rejected, store.rejects_iff model batch, fun names => ?_, told, fun fails silent => ?_,
    fun batch' reordered => ?_, store.exists_insideTransaction_iff model batch⟩
  · exact fun rejected => rejected.run pool state
  · rw [← rejected]
    refine exists_congr fun names => (told names).trans (or_iff_left ?_)
    rintro ⟨-, unproduced | ⟨call, -, member⟩⟩
    · obtain ⟨object, present, failed⟩ := exists_error_of_mapM unproduced
      exact silent object present names failed
    · obtain ⟨asked, answered⟩ := Program.exists_answer_of_mem member
      obtain ⟨_, ⟨⟩⟩ := fails asked call _ answered
  · rw [rejected, store.exists_rejects_iff model batch', ← exists_foreign_iff, ← exists_foreign_iff]
    exact exists_congr fun name => and_congr_left' reordered.mem_iff

/-- Foreign names that are repeated are reported once, and records that fail are not asked for. -/
theorem bulkInsert_rejects_iff_mixed :
    let key : List Property := [⟨"id", .uniqueId, true⟩]
    let note : ModelDefinition := ⟨"Note", key, ⟨0, by decide⟩, by decide, by decide⟩
    let song : ModelDefinition := ⟨"Song", key, ⟨0, by decide⟩, by decide, by decide⟩
    let draft : ModelDefinition := ⟨"Draft", key, ⟨0, by decide⟩, by decide, by decide⟩
    let failed : Except Error Record := .error (.database "not loaded")
    let store : Datastore := ⟨.postgres, {}⟩
    let batch : List ModelInstance :=
      [⟨note, failed⟩, ⟨song, failed⟩, ⟨note, failed⟩, ⟨draft, failed⟩, ⟨song, failed⟩]
    (store.bulkInsert note batch).run Pool.scripted [.fail "no connection"] =
        (.error (.heterogeneousBatch ["Note", "Song", "Draft"]), [.fail "no connection"]) ∧
      (store.bulkInsert note batch).exchanges Pool.scripted [.fail "no connection"] = [] := by
  intro key note song draft failed store batch
  have names : instanceNames batch = ["Note", "Song", "Note", "Draft", "Song"] := rfl
  have spec : ForeignNames "Note" (instanceNames batch) ["Song", "Draft"] := by
    rw [names]
    exact ⟨fun name => by grind, by decide⟩
  obtain ⟨-, reports, ends, -⟩ :=
    store.bulkInsert_rejects_iff note batch Pool.scripted [.fail "no connection"]
  exact ends _ ((reports _).2 ⟨["Song", "Draft"], by decide, spec, rfl⟩)

end Datastore

end RecordStore
