import RecordStore.Memory.Cell
import RecordStore.Memory.Table
import RecordStore.Store.Program

/-!
# A store in memory

A database of tables that understands the statements of a datastore: it reads each statement from its
text and parameters and changes its tables accordingly, or fails and leaves them as they are. A
transaction keeps the tables of its beginning, and a rollback brings them back.
-/

namespace RecordStore

/-- The tables of a database, and those at the beginning of the open transaction. -/
structure Database (γ : Type) where
  tables : List (String × Table γ)
  saved : Option (List (String × Table γ)) := none

/-- Why a database refuses a statement. -/
inductive DatabaseFault where
  | noTable (table : String)
  /-- An insert names a column that the table does not have. -/
  | noColumn (table column : String)
  /-- What to do in a conflict names a column that the table does not have. -/
  | noMergedColumn (column : String)
  | notUnique (table column : String)
  | noSuchKey
  | cellCount (found expected : Nat)
  | tableWidth (table : String) (found expected : Nat)
  | notACommand
  deriving DecidableEq, Repr

namespace DatabaseFault

/-- The message of a fault, without its code. -/
def text : DatabaseFault → String
  | noTable table => "no such table: " ++ table
  | noColumn table column => "table " ++ table ++ " has no column named " ++ column
  | noMergedColumn column => "no such column: " ++ column
  | notUnique table column => "UNIQUE constraint failed: " ++ table ++ "." ++ column
  | noSuchKey => "ON CONFLICT clause does not match any PRIMARY KEY or UNIQUE constraint"
  | cellCount found expected =>
    String.ofList (Text.digits found) ++ " values for " ++ String.ofList (Text.digits expected)
      ++ " columns"
  | tableWidth table found expected =>
    "table " ++ table ++ " has " ++ String.ofList (Text.digits expected) ++ " columns but "
      ++ String.ofList (Text.digits found) ++ " values were supplied"
  | notACommand => "near \"\": syntax error"

/-- The code of a fault. -/
def code : DatabaseFault → String
  | notUnique .. => "1555"
  | _ => "1"

/-- The error of a fault. -/
def error (fault : DatabaseFault) : Error :=
  .database ("error returned from database: (code: " ++ fault.code ++ ") " ++ fault.text)

end DatabaseFault

namespace Database

variable {γ : Type}

/-- The database with empty tables of the given names, columns and keys. -/
def ofTables (tables : List (String × List String × String)) : Database γ where
  tables := tables.map fun (name, columns, key) => (name, ⟨columns, key, []⟩)

/-- The database with the rows of one table changed. -/
def setRows (database : Database γ) (name : String) (rows : List (List γ)) : Database γ :=
  { database with
    tables := database.tables.map fun (other, table) =>
      (other, if other = name then { table with rows } else table) }

/-- What a command answers and what it leaves. -/
structure Outcome (γ : Type) where
  /-- The rows it found. -/
  rows : List StoredRow
  /-- How many rows it changed. -/
  affected : Nat
  database : Database γ

/-- Refuses the first of some columns that a table does not have. -/
def checkColumns (table : Table γ) (fault : String → DatabaseFault) (columns : List String) :
    Except DatabaseFault Unit :=
  match columns.find? (· ∉ table.columns) with
  | none => .ok ()
  | some column => .error (fault column)

/-- Refuses a row that has not one value for each column. -/
def checkWidths (name : String) (table : Table γ) (columns : Option (List String))
    (rows : List (List StoredValue)) : Except DatabaseFault Unit :=
  let width := (columns.getD table.columns).length
  match rows.find? (·.length ≠ width) with
  | none => .ok ()
  | some row =>
    if columns.isSome then .error (.cellCount row.length width)
    else .error (.tableWidth name row.length width)

variable (kind : CellKind γ)

/-- Runs a command on its table. -/
def runOn (database : Database γ) (table : Table γ) :
    Command → Except DatabaseFault (Outcome γ)
  | .select selection _ conditions order limit offset =>
    let found := table.select kind conditions order limit offset
    match selection with
    | .rows => .ok ⟨found.map (table.toRow kind), 0, database⟩
    | .count column => .ok ⟨[[(column, .integer (Int64.ofNat found.length))]], 0, database⟩
  | .insert name columns rows conflict => do
    checkColumns table (.noColumn name) (columns.getD table.columns)
    checkWidths name table columns rows
    if conflict.any (·.key ≠ table.key) then throw .noSuchKey
    checkColumns table .noMergedColumn (conflict.elim [] Conflict.merged)
    let cells := rows.map fun row =>
      table.rowOf kind (columns.getD table.columns) (row.map kind.ofStored)
    match table.insertRows kind conflict cells table.rows with
    | some (rows, affected) => return ⟨[], affected, database.setRows name rows⟩
    | none => throw (.notUnique name table.key)
  | .delete name conditions =>
    let kept := table.rows.filter fun row => !table.satisfies kind conditions row
    .ok ⟨[], table.rows.length - kept.length, database.setRows name kept⟩

/-- Runs a statement. -/
def runStatement (database : Database γ) (statement : Statement) :
    Except DatabaseFault (Outcome γ) :=
  match Command.ofStatement? statement with
  | none => .error .notACommand
  | some command =>
    match database.tables.lookup command.table with
    | none => .error (.noTable command.table)
    | some table => database.runOn kind table command

/-- Answers with a part of the outcome of a statement; a statement that fails changes nothing. -/
def answerWith {α : Type} (database : Database γ) (statement : Statement) (part : Outcome γ → α) :
    Except Error α × Database γ :=
  match database.runStatement kind statement with
  | .ok outcome => (.ok (part outcome), outcome.database)
  | .error fault => (.error fault.error, database)

/-- Answers a call. -/
def answer (database : Database γ) : (call : Call) → Except Error call.Answer × Database γ
  | .execute statement => database.answerWith kind statement Outcome.affected
  | .executeInside statement => database.answerWith kind statement Outcome.affected
  | .fetchAll statement => database.answerWith kind statement Outcome.rows
  | .fetchOptional statement => database.answerWith kind statement fun outcome => outcome.rows.head?
  | .begin => (.ok (), { database with saved := some database.tables })
  | .commit => (.ok (), { database with saved := none })
  | .rollback => (.ok (), { tables := database.saved.getD database.tables })

end Database

/-- The store whose tables have cells of a kind. -/
def Pool.ofCells {γ : Type} (kind : CellKind γ) : Pool (Database γ) where
  answer := Database.answer kind

/-- The store in memory. -/
def Pool.memory : Pool (Database Cell) := Pool.ofCells Cell.kind

end RecordStore
