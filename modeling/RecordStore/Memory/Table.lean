import RecordStore.Memory.CellKind
import RecordStore.Sql.Command
import RecordStore.Sql.Truth

/-!
# Tables

A table of the store in memory has columns, one of which is the key, and rows in the order of their
insertion. No two rows have equal keys; null equals nothing, so any number of rows may have a null
key. An insert whose key is taken fails, unless it says what to do with the row that is there.
-/

namespace RecordStore

/-- A table. -/
structure Table (γ : Type) where
  columns : List String
  key : String
  /-- The rows, each with a cell for every column. -/
  rows : List (List γ)
  deriving Repr

namespace Table

variable {γ : Type} (table : Table γ) (kind : CellKind γ)

/-- The cell of a column in a row; a column that is not there holds null. -/
def cell (row : List γ) (column : String) : γ :=
  ((table.columns.zip row).lookup column).getD kind.null

/-- The key of a row. -/
def keyOf (row : List γ) : γ := table.cell kind row table.key

/-- Whether two rows have equal keys. -/
def sameKey (left right : List γ) : Bool :=
  kind.equals (table.keyOf kind left) (table.keyOf kind right)

/-! ## Reading -/

/-- The truth of comparisons in a row. -/
def leafTruth (row : List γ) : LeafTruth where
  compare column comparison value :=
    kind.compares comparison (table.cell kind row column) (kind.ofStored value)
  isNull column := some (kind.isNull (table.cell kind row column))

/-- Whether conditions are true of a row. -/
def satisfies (conditions : List Condition) (row : List γ) : Bool :=
  conditionsTruth (table.leafTruth kind row) conditions == some true

/-- Whether a row may stand before another in an order of columns. -/
def precedes (order : List (String × Direction)) (left right : List γ) : Bool :=
  match order with
  | [] => true
  | (column, direction) :: rest =>
    let ordering := kind.order (table.cell kind left column) (table.cell kind right column)
    match if direction = .ascending then ordering else ordering.swap with
    | .lt => true
    | .eq => precedes rest left right
    | .gt => false

/-- The rows that satisfy conditions, in order, from an offset up to a limit. -/
def select (conditions : List Condition) (order : List (String × Direction))
    (limit offset : Option Nat) : List (List γ) :=
  let found := table.rows.filter (table.satisfies kind conditions)
  let sorted := if order.isEmpty then found else found.mergeSort (table.precedes kind order)
  let rest := sorted.drop (offset.getD 0)
  match limit with
  | some limit => rest.take limit
  | none => rest

/-- The stored values of a row. -/
def toRow (row : List γ) : List (String × StoredValue) :=
  table.columns.zip (row.map kind.toStored)

/-! ## Writing -/

/-- The row with cells for some columns and null in the others. -/
def rowOf (columns : List String) (cells : List γ) : List γ :=
  table.columns.map fun column => ((columns.zip cells).lookup column).getD kind.null

/-- A row in whose way another is, with some columns taken from that one. -/
def merge (merged : List String) (old new : List γ) : List γ :=
  table.columns.map fun column =>
    if column ∈ merged then table.cell kind new column else table.cell kind old column

/-- The rows after one is inserted and the number of rows changed, or nothing if its key is taken and
the insert does not say what to do. -/
def insertRow (conflict : Option Conflict) (row : List γ) (rows : List (List γ)) :
    Option (List (List γ) × Nat) :=
  if rows.any (table.sameKey kind row) then
    match conflict with
    | none => none
    | some ⟨_, []⟩ => some (rows, 0)
    | some ⟨_, merged⟩ =>
      some (rows.map fun old =>
        if table.sameKey kind row old then table.merge kind merged old row else old, 1)
  else some (rows ++ [row], 1)

/-- The rows after several are inserted one after the other, and the number of rows changed. -/
def insertRows (conflict : Option Conflict) :
    List (List γ) → List (List γ) → Option (List (List γ) × Nat)
  | [], rows => some (rows, 0)
  | row :: more, rows => do
    let (rows, changed) ← table.insertRow kind conflict row rows
    let (rows, others) ← insertRows conflict more rows
    return (rows, changed + others)

end Table

end RecordStore
