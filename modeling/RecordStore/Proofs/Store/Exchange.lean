import RecordStore.Store.Program

/-!
# What a program asks of a store

A program over a store makes calls and gets answers. `Program.exchanges` lists both in order, so that
what an operation asks can be stated for every store at once: the answers are those of the store, and
the calls are those that the store is asked (`Program.run_logged`).
-/

namespace RecordStore

/-- A call to a store and what the store answered. -/
structure Exchange where
  call : Call
  answer : Except Error call.Answer

/-- A call that is not made has no answer. -/
theorem Exchange.not_mem_of_call {exchanges : List Exchange} {call : Call}
    (absent : call ∉ exchanges.map Exchange.call) (answer : Except Error call.Answer) :
    ⟨call, answer⟩ ∉ exchanges :=
  fun member => absent (List.mem_map_of_mem member)

namespace Program

variable {σ α β : Type} (pool : Pool σ)

/-- The calls of a program to a store from a state, in order, with the answers of the store. -/
def exchanges : σ → Program α → List Exchange
  | _, done _ => []
  | state, call request next =>
    ⟨request, (pool.answer state request).1⟩ ::
      exchanges (pool.answer state request).2 (next (pool.answer state request).1)

/-- The store that keeps its calls has those of the exchanges, the latest first. -/
theorem run_logged (state : σ) (log : List Call) (program : Program α) :
    run pool.logged (state, log) program =
      ((run pool state program).1,
        ((run pool state program).2, ((exchanges pool state program).map Exchange.call).reverse ++ log)) := by
  induction program generalizing state log with
  | done result => rfl
  | call request next ih =>
    have rest := ih (pool.answer state request).1 (pool.answer state request).2 (request :: log)
    simpa [run, exchanges, Pool.logged] using rest

/-! ## Programs one after the other -/

@[simp] theorem ok_bind (result : α) (next : α → Program β) :
    (done (.ok result) >>= next) = next result := rfl

@[simp] theorem pure_eq (result : α) : (pure result : Program α) = done (.ok result) := rfl

@[simp] theorem perform_bind (request : Call) (next : request.Answer → Program β) :
    (perform request >>= next) = call request fun answer => done answer >>= next := rfl

section Ran

variable {pool} {state after : σ} {program : Program α} {result : α}
  (ran : program.run pool state = (.ok result, after)) (next : α → Program β)

include ran

/-- What follows a program runs on its result, from where it left. -/
theorem run_bind_of_ok : (program >>= next).run pool state = (next result).run pool after := by
  have both := run_bind pool state program next
  rw [ran] at both
  exact both

/-- The calls of a program come before those of what follows it. -/
theorem exchanges_bind_of_ok :
    exchanges pool state (program >>= next) =
      exchanges pool state program ++ exchanges pool after (next result) := by
  induction program generalizing state with
  | done answer =>
    cases ran
    rfl
  | call request rest ih => exact congrArg (List.cons _) (ih _ ran)

end Ran

end Program

end RecordStore
