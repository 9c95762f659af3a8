import RecordStore.Row
import RecordStore.Sql.Statement

/-!
# Programs over a store

What a datastore does is a program: it ends with a result or an error, or it makes a call to the store
and goes on with the answer. A program knows nothing of the store but the answers, so what it does can
be stated for every store. `Program.run` runs it over one store.
-/

namespace RecordStore

/-- A call to a store. -/
inductive Call where
  /-- Runs a statement that changes rows. -/
  | execute (statement : Statement)
  /-- Asks for all rows of a statement. -/
  | fetchAll (statement : Statement)
  /-- Asks for the first row of a statement. -/
  | fetchOptional (statement : Statement)
  | begin
  | commit
  | rollback
  /-- Runs a statement that changes rows inside the open transaction. -/
  | executeInside (statement : Statement)
  deriving Repr

/-- What a store answers to a call when it does not fail; a statement that changes rows answers how
many. -/
def Call.Answer : Call → Type
  | execute _ => Nat
  | fetchAll _ => List StoredRow
  | fetchOptional _ => Option StoredRow
  | begin => Unit
  | commit => Unit
  | rollback => Unit
  | executeInside _ => Nat

/-- A course of calls to a store that ends with a result or an error. -/
inductive Program (α : Type) : Type where
  | done (result : Except Error α)
  | call (call : Call) (next : Except Error call.Answer → Program α)

namespace Program

variable {α β : Type}

/-- The program that makes one call and ends with its answer. -/
def perform (call : Call) : Program call.Answer := .call call .done

/-- The program that makes one call, whether it fails or not. -/
def attempt (call : Call) : Program (Except Error call.Answer) :=
  .call call fun answer => .done (.ok answer)

/-- The program that ends with a result or an error that is known without the store. -/
def lift (result : Except Error α) : Program α := .done result

/-- Goes on with the result of a program; an error ends it. -/
def bind : Program α → (α → Program β) → Program β
  | done (.ok result), next => next result
  | done (.error error), _ => done (.error error)
  | call request rest, next => call request fun answer => bind (rest answer) next

instance : Monad Program where
  pure result := done (.ok result)
  bind := bind

instance : MonadLift (Except Error) Program where
  monadLift := lift

/-- Ends with an error. -/
def fail (error : Error) : Program α := done (.error error)

end Program

/-- A store: how it answers a call in a state, and the state after it. -/
structure Pool (σ : Type) where
  answer : σ → (call : Call) → Except Error call.Answer × σ

namespace Pool

/-- The store that also keeps the calls it was asked, the latest first. -/
def logged {σ : Type} (pool : Pool σ) : Pool (σ × List Call) where
  answer := fun (state, calls) call =>
    let (answer, state) := pool.answer state call
    (answer, (state, call :: calls))

end Pool

namespace Program

/-- Runs a program over a store from a state. -/
def run {σ α : Type} (pool : Pool σ) : σ → Program α → Except Error α × σ
  | state, done result => (result, state)
  | state, call request next =>
    run pool (pool.answer state request).2 (next (pool.answer state request).1)

/-- A program followed by another runs as the one and then, from where it left, as the other. -/
theorem run_bind {σ α β : Type} (pool : Pool σ) (state : σ) (program : Program α)
    (next : α → Program β) :
    run pool state (program.bind next)
      = match run pool state program with
        | (.ok result, state) => run pool state (next result)
        | (.error error, state) => (.error error, state) := by
  induction program generalizing state with
  | done result => cases result <;> rfl
  | call request rest ih => exact ih _ _

end Program

end RecordStore
