import RecordStore.Proofs.Store.Exchange

/-!
# Programs that stop at a failure

A program that fails fast ends with the error of the first call that fails, after no other call than the
rollback of a transaction whose statement failed (`Program.FailsFast.of_exchanges`). A program that never
refuses ends with no error of its own that blames what it was given
(`Program.NeverRefuses.run`), so a program that refuses does so before its first call. Most operations
make one call, and what they do then is said once (`Program.AsksOnce`).
-/

namespace RecordStore

/-! ## Errors -/

/-- Whether an error blames what an operation was given: a search, a batch or an object without a key. -/
def Error.IsRefusal : Error → Prop
  | malformedQuery _ => True
  | heterogeneousBatch _ => True
  | missingPrimaryKey _ => True
  | _ => False

/-- Whether a result is no refusal. -/
def Unrefused {α : Type} (result : Except Error α) : Prop :=
  ∀ error, result = .error error → ¬ error.IsRefusal

theorem unrefused_ok {α : Type} (value : α) : Unrefused (.ok value : Except Error α) := by
  rintro _ ⟨⟩

theorem unrefused_error {α : Type} {error : Error} (other : ¬ error.IsRefusal) :
    Unrefused (.error error : Except Error α) := by
  rintro _ ⟨⟩
  exact other

/-- The error of one result is that of another. -/
theorem Unrefused.error {α β : Type} {error : Error} (failed : Unrefused (.error error : Except Error α)) :
    Unrefused (.error error : Except Error β) :=
  unrefused_error (failed error rfl)

/-- Every failure of the store is a failure of the database. -/
def Pool.FailsAsDatabase {σ : Type} (pool : Pool σ) : Prop :=
  ∀ state call error, (pool.answer state call).1 = .error error → ∃ message, error = .database message

theorem Pool.FailsAsDatabase.unrefused {σ : Type} {pool : Pool σ} (fails : pool.FailsAsDatabase)
    (state : σ) (call : Call) : Unrefused (pool.answer state call).1 := by
  intro error failed
  obtain ⟨message, rfl⟩ := fails state call error failed
  exact id

/-- The calls after one that fails: a transaction is rolled back when its statement fails. -/
def Call.afterFailure : Call → List Call
  | executeInside _ => [rollback]
  | _ => []

namespace Program

variable {σ α β : Type} {pool : Pool σ} {state : σ} {program : Program α}

/-! ## Failing fast -/

/-- How a program ends whose call fails. -/
def failing (error : Error) : Call → Program α
  | .executeInside _ => .call .rollback fun _ => .done (.error error)
  | _ => .done (.error error)

theorem run_failing (error : Error) (request : Call) :
    ((failing error request : Program α).run pool state).1 = .error error := by
  cases request <;> rfl

theorem calls_failing (error : Error) (request : Call) :
    (exchanges pool state (failing error request : Program α)).map Exchange.call =
      request.afterFailure := by
  cases request <;> rfl

/-- Whether a program ends with the error of the first call that fails, a rollback apart. -/
def FailsFast : Program α → Prop
  | done _ => True
  | call request next =>
    (request ≠ .rollback → ∀ error, next (.error error) = failing error request) ∧
      ∀ answer, (next answer).FailsFast

/-- When a call fails, its error is the result and nothing but a rollback follows. -/
theorem FailsFast.of_exchanges (fast : program.FailsFast) {before after : List Exchange} {call : Call}
    {error : Error} (asked : exchanges pool state program = before ++ ⟨call, .error error⟩ :: after)
    (other : call ≠ .rollback) :
    (program.run pool state).1 = .error error ∧ after.map Exchange.call = call.afterFailure := by
  induction program generalizing state before with
  | done result =>
    rw [exchanges] at asked
    cases before <;> cases asked
  | call request next ih =>
    rw [exchanges] at asked
    rw [run]
    generalize pool.answer state request = reply at asked ⊢
    obtain ⟨answer, later⟩ := reply
    cases before with
    | nil =>
      obtain ⟨first, rfl⟩ := List.cons.inj asked
      cases first
      rw [fast.1 other error]
      exact ⟨run_failing error call, calls_failing error call⟩
    | cons exchange before => exact ih answer (fast.2 answer) (List.cons.inj asked).2

/-! ## Refusing at once -/

/-- Whether a program ends with no refusal when its store answers none. -/
def NeverRefuses : Program α → Prop
  | done result => Unrefused result
  | call _ next => ∀ answer, Unrefused answer → (next answer).NeverRefuses

theorem NeverRefuses.run (never : program.NeverRefuses) (fails : pool.FailsAsDatabase) :
    Unrefused (program.run pool state).1 := by
  induction program generalizing state with
  | done result => exact never
  | call request next ih => exact ih _ (never _ (fails.unrefused state request))

/-- Whether a program has ended before its first call or never refuses. -/
def RefusesAtOnce (program : Program α) : Prop :=
  (∃ result, program = .done result) ∨ program.NeverRefuses

/-- A program that refuses has made no call. -/
theorem RefusesAtOnce.exchanges_eq_nil (atOnce : program.RefusesAtOnce) (fails : pool.FailsAsDatabase)
    {error : Error} (failed : (program.run pool state).1 = .error error) (refusal : error.IsRefusal) :
    exchanges pool state program = [] := by
  obtain ⟨result, rfl⟩ | never := atOnce
  · rfl
  · exact absurd refusal (never.run fails error failed)

/-! ## Programs of one call -/

/-- Whether a program makes one call outside of transactions, and ends with its error, or with a result
that is no refusal. -/
def AsksOnce : Program α → Prop
  | done _ => False
  | call request next =>
    request.afterFailure = [] ∧ (∀ error, next (.error error) = .done (.error error)) ∧
      ∀ answer, ∃ result, next (.ok answer) = .done result ∧ Unrefused result

theorem AsksOnce.failsFast (once : program.AsksOnce) : program.FailsFast := by
  cases program with
  | done result => exact once.elim
  | call request next =>
    obtain ⟨outside, failed, ended⟩ := once
    refine ⟨fun _ error => ?_, fun answer => ?_⟩
    · rw [failed error]
      cases request with
      | executeInside statement => cases outside
      | _ => rfl
    · cases answer with
      | error error =>
        rw [failed error]
        trivial
      | ok answer =>
        obtain ⟨result, same, -⟩ := ended answer
        rw [same]
        trivial

theorem AsksOnce.neverRefuses (once : program.AsksOnce) : program.NeverRefuses := by
  cases program with
  | done result => exact once.elim
  | call request next =>
    obtain ⟨-, failed, ended⟩ := once
    intro answer unrefused
    cases answer with
    | error error =>
      rw [failed error]
      exact unrefused.error
    | ok answer =>
      obtain ⟨result, same, other⟩ := ended answer
      rw [same]
      exact other

end Program

end RecordStore
