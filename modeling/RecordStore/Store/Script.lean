import RecordStore.Store.Program

/-!
# Scripted stores

A store that answers from a script, whatever it is asked. When the script has come to its end, calls
succeed, change one row and find none.
-/

namespace RecordStore

/-- One entry of a script. -/
inductive Reply where
  /-- The call fails. -/
  | fail (text : String)
  /-- The call changes so many rows, or finds the rows. -/
  | give (affected : Nat) (rows : List StoredRow)
  deriving Repr

namespace Reply

/-- The reply when a script has come to its end. -/
def default : Reply := .give 1 []

/-- The failure that a script tells. -/
def failure (text : String) : Error :=
  .database ("encountered unexpected or invalid data: " ++ text)

/-- What a reply answers to a call. -/
def answer : Reply → (call : Call) → Except Error call.Answer
  | fail text, _ => .error (failure text)
  | give affected _, .execute _ => .ok affected
  | give affected _, .executeInside _ => .ok affected
  | give _ rows, .fetchAll _ => .ok rows
  | give _ rows, .fetchOptional _ => .ok rows.head?
  | give _ _, .begin => .ok ()
  | give _ _, .commit => .ok ()
  | give _ _, .rollback => .ok ()

end Reply

/-- The store that answers from the script in its state. -/
def Pool.scripted : Pool (List Reply) where
  answer
    | [], call => (Reply.default.answer call, [])
    | reply :: rest, call => (reply.answer call, rest)

end RecordStore
