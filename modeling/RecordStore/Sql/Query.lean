import RecordStore.StoredValue

/-!
# Queries

A query is built up step by step. It holds all that a statement of any kind may need, and its kind
decides which parts are used. A condition list is read from left to right: every condition has the
connector that joins it to those before, which for the first one does not matter.
-/

namespace RecordStore

/-- The language that a store understands. -/
inductive Dialect where
  | postgres
  | sqlite
  deriving DecidableEq, Repr

/-- The name of a dialect. -/
def Dialect.name : Dialect → String
  | postgres => "PostgreSQL"
  | sqlite => "SQLite"

/-- A comparison of a column with a value. -/
inductive Comparison where
  | equal
  | greater
  | greaterOrEqual
  | less
  | lessOrEqual
  | like
  /-- A pattern match that does not tell upper from lower case. -/
  | likeAnyCase
  deriving DecidableEq, Repr

/-- What joins a condition to those before it. -/
inductive Connector where
  | and
  | or
  deriving DecidableEq, Repr

/-- A condition on a row. -/
inductive Predicate where
  | compare (column : String) (comparison : Comparison) (value : StoredValue)
  | isNull (column : String)
  /-- Conditions in parentheses. -/
  | group (conditions : List (Connector × Predicate))
  deriving Repr

/-- A predicate with the connector that joins it to those before it. -/
abbrev Condition := Connector × Predicate

mutual

/-- Whether a predicate has no comparison at any depth. -/
def Predicate.isEmpty : Predicate → Bool
  | .compare .. => false
  | .isNull _ => false
  | .group conditions => Predicate.allEmpty conditions

/-- Whether no condition of a list has a comparison at any depth. -/
def Predicate.allEmpty : List (Connector × Predicate) → Bool
  | [] => true
  | (_, predicate) :: rest => predicate.isEmpty && Predicate.allEmpty rest

end

/-- The condition that a column equals a value; nothing equals null, so null asks for its absence. -/
def Predicate.equality (column : String) (value : StoredValue) : Predicate :=
  if value.isNull then .isNull column else .compare column .equal value

/-- The direction of an order. -/
inductive Direction where
  | ascending
  | descending
  deriving DecidableEq, Repr

/-- What a query does. -/
inductive QueryKind where
  | select
  | count
  | insert
  | delete
  deriving DecidableEq, Repr

/-- A query under construction. -/
structure Query where
  kind : QueryKind := .select
  table : Option String := none
  conditions : List Condition := []
  order : List (String × Direction) := []
  limit : Option UInt64 := none
  offset : Option UInt64 := none
  columns : List String := []
  rows : List (List StoredValue) := []
  /-- The column on whose conflicts an insert overwrites the row that is there. -/
  conflictKey : Option String := none
  deriving Repr

namespace Query

/-- The query that does nothing yet but select. -/
def empty : Query := {}

/-- The query with another table. -/
def onTable (query : Query) (table : String) : Query := { query with table := some table }

/-- The query as one that counts rows. -/
def counting (query : Query) : Query := { query with kind := .count }

/-- The query as one that inserts into a table. -/
def insertingInto (query : Query) (table : String) : Query :=
  { query with kind := .insert, table := some table }

/-- The query as one that deletes from a table. -/
def deletingFrom (query : Query) (table : String) : Query :=
  { query with kind := .delete, table := some table }

/-- The query with one more condition. -/
def addCondition (query : Query) (connector : Connector) (predicate : Predicate) : Query :=
  { query with conditions := query.conditions ++ [(connector, predicate)] }

/-- The query with the condition that a column equals a value. -/
def whereEqual (query : Query) (column : String) (value : StoredValue) : Query :=
  query.addCondition .and (.equality column value)

/-- The query with the conditions of another one in parentheses. -/
def addGroup (query : Query) (connector : Connector) (inner : Query) : Query :=
  query.addCondition connector (.group inner.conditions)

/-- The query with one more order. -/
def orderBy (query : Query) (column : String) (direction : Direction) : Query :=
  { query with order := query.order ++ [(column, direction)] }

/-- The query for at most a number of rows. -/
def limitTo (query : Query) (count : UInt64) : Query := { query with limit := some count }

/-- The query that passes over a number of rows. -/
def skipping (query : Query) (count : UInt64) : Query := { query with offset := some count }

/-- The query with the columns to insert. -/
def withColumns (query : Query) (columns : List String) : Query := { query with columns }

/-- The query with one more row to insert. -/
def addRow (query : Query) (row : List StoredValue) : Query :=
  { query with rows := query.rows ++ [row] }

/-- The query that overwrites the row in whose way an inserted one is, by the key of both. -/
def mergingOn (query : Query) (key : String) : Query := { query with conflictKey := some key }

/-- Whether the query asks for a part of the rows. -/
def isPaginated (query : Query) : Bool := query.limit.isSome || query.offset.isSome

end Query

end RecordStore
