import RecordStore.Config
import RecordStore.Search.Compilation
import RecordStore.Search.Document
import RecordStore.Store.Program

/-!
# Datastores

A datastore keeps the records of each model in one table of a store. Its operations are programs over
the store: saving writes a record and reads it back, a batch is inserted in one transaction, and a
search gives the records that can be read together with the place where the next page begins.
-/

namespace RecordStore

/-- The records of a search. -/
structure SearchResult where
  records : List Record
  /-- The place where the next page begins, when the search has pages. It is a word, as a search takes
  it, and begins again at zero after the greatest word. -/
  next : Option UInt64

/-- The number of rows before the next page, when the search has pages. -/
def SearchResult.page (result : SearchResult) : Option Nat := result.next.map UInt64.toNat

/-- A datastore over a store that understands a dialect. -/
structure Datastore where
  dialect : Dialect
  config : Config

namespace Datastore

variable (store : Datastore)

/-- How many records of a batch are encoded at a time. -/
def concurrency : Nat := max 1 store.config.concurrency.toNat

/-- The table of a model. -/
def tableName (model : ModelDefinition) : String := store.config.tableName model

/-- The codecs of the datastore. -/
def codecs : CodecRegistry := store.config.codecs

/-- The datastore in words. -/
def describe : String :=
  "SqlDatastore \x7b dialect: " ++ store.dialect.name ++ ", serializer: ValueSerializer \x7b registry: "
    ++ store.codecs.describe ++ " \x7d, bulk_encode_concurrency: "
    ++ String.ofList (Text.digits store.concurrency) ++ ", .. \x7d"

/-- The statement of a query in the dialect of the store. -/
def statement (query : Query) : Statement := query.toStatement store.dialect

/-! ## Queries -/

/-- The query for the row of a primary key. -/
def keyQuery (model : ModelDefinition) (key : Json) : Query :=
  (((Query.empty.onTable (store.tableName model)).whereEqual model.key.name
    (store.codecs.encodeKey model key)).limitTo 1)

/-- The query that inserts rows into the table of a model. -/
def insertQuery (model : ModelDefinition) (rows : List (List StoredValue)) : Query :=
  rows.foldl Query.addRow
    ((Query.empty.insertingInto (store.tableName model)).withColumns model.columns)

/-- The query that inserts a record, or overwrites the row of its key. -/
def upsertQuery (model : ModelDefinition) (record : Record) : Query :=
  (store.insertQuery model [store.codecs.encodeValues model record]).mergingOn model.key.name

/-- The query that deletes the row of a primary key. -/
def deleteQuery (model : ModelDefinition) (key : Json) : Query :=
  (Query.empty.deletingFrom (store.tableName model)).whereEqual model.key.name
    (store.codecs.encodeKey model key)

/-- The query that counts the rows of a model. -/
def countQuery (model : ModelDefinition) : Query :=
  (Query.empty.onTable (store.tableName model)).counting

/-! ## Operations on records -/

/-- The row of a primary key, if there is one. -/
def fetchByKey (model : ModelDefinition) (key : Json) : Program (Option StoredRow) :=
  .perform (.fetchOptional (store.statement (store.keyQuery model key)))

/-- The record of a primary key, if there is one. -/
def retrieve (model : ModelDefinition) (key : Json) : Program (Option Record) := do
  match ← store.fetchByKey model key with
  | some row => return some (← store.codecs.decodeRecord model row)
  | none => return none

/-- Writes the record of an object, in the place of one with the same key, and answers it as it is
stored. -/
def save (object : ModelInstance) : Program Record := do
  let model := object.model
  let record ← Program.lift object.record
  let key ← Program.lift object.primaryKey
  let _ ← Program.perform (.execute (store.statement (store.upsertQuery model record)))
  match ← store.fetchByKey model key with
  | some row => store.codecs.decodeRecord model row
  | none => .fail (.notFound (store.tableName model) key)

/-- The names of the models of a batch, that of `model` first, each once. -/
def modelNames (model : ModelDefinition) (batch : List ModelInstance) : List String :=
  batch.foldl
    (fun names object => if object.model.name ∈ names then names else names ++ [object.model.name])
    [model.name]

/-- Inserts the records of a batch in one transaction, all or none. Every object must belong to the
model; an empty batch asks nothing of the store. -/
def bulkInsert (model : ModelDefinition) (batch : List ModelInstance) : Program Unit := do
  if batch.isEmpty then return
  let names := modelNames model batch
  if 1 < names.length then Program.fail (.heterogeneousBatch names)
  let records ← Program.lift (batch.mapM ModelInstance.record)
  let statement := store.statement
    (store.insertQuery model (records.map (store.codecs.encodeValues model)))
  Program.perform .begin
  match ← Program.attempt (.executeInside statement) with
  | .ok _ => Program.perform .commit
  | .error error => do
    let _ ← Program.attempt .rollback
    Program.fail error

/-- Deletes the row of a primary key, if there is one. -/
def delete (model : ModelDefinition) (key : Json) : Program Unit := do
  let _ ← Program.perform (.execute (store.statement (store.deleteQuery model key)))

/-- The number of rows that a stored value tells. -/
def rowCount? : StoredValue → Option Nat
  | .integer count => if 0 ≤ count.toInt then some count.toInt.toNat else none
  | .string text => (Text.word? text.toList).map UInt64.toNat
  | _ => none

/-- The number of rows of a model. A store that answers no count has none. -/
def count (model : ModelDefinition) : Program Nat := do
  let row ← Program.perform (.fetchOptional (store.statement (store.countQuery model)))
  match row.bind (·.lookup "count") with
  | none => return 0
  | some value =>
    match rowCount? value with
    | some count => return count
    | none => .fail (.decode .rowCount value)

/-- The records of a search. Rows that cannot be read are left out of the records and still count for
the page. -/
def search (model : ModelDefinition) (search : Search) : Program SearchResult := do
  let query ← Program.lift (search.compile store.codecs model (store.tableName model))
  let rows ← Program.perform (.fetchAll (store.statement query))
  return {
    records := rows.filterMap fun row => (store.codecs.decodeRecord model row).toOption
    next :=
      if query.isPaginated then some (query.offset.getD 0 + UInt64.ofNat rows.length) else none }

/-! ## The store itself

Records are all that a datastore has operations for. The programs here are no operations of it: they ask
its store directly, past records and codecs, to put rows into the table of a model that no record is
stored as, to see what the operations have left there, and to end a transaction either way. -/

/-- Inserts one row of stored values. -/
def insertRow (model : ModelDefinition) (row : List StoredValue) : Program Nat :=
  .perform (.execute (store.statement (store.insertQuery model [row])))

/-- All rows of a model. -/
def rows (model : ModelDefinition) : Program (List StoredRow) :=
  .perform (.fetchAll (store.statement (Query.empty.onTable (store.tableName model))))

/-- Inserts one row of stored values without naming the columns, binding null too. -/
def bindRow (model : ModelDefinition) (row : List StoredValue) : Program Nat :=
  let values := (", ".intercalate (row.map fun _ => "?")).toList
  .perform (.execute
    { text := String.ofList ("INSERT INTO ".toList ++ quoteIdentifier (store.tableName model).toList
        ++ " VALUES (".toList ++ values ++ [')'])
      params := row })

/-- Inserts rows one after the other inside the open transaction and answers how many rows each has
changed. When one fails the transaction is rolled back, and a rollback that fails tells its own
error. -/
def insertInside (model : ModelDefinition) : List (List StoredValue) → Program (List Nat)
  | [] => return []
  | row :: rest => do
    match ← Program.attempt (.executeInside (store.statement (store.insertQuery model [row]))) with
    | .ok affected => return affected :: (← insertInside model rest)
    | .error error => do
      Program.perform .rollback
      .fail error

/-- Inserts rows in one transaction, which ends as told. -/
def transaction (model : ModelDefinition) (rows : List (List StoredValue)) (commits : Bool) :
    Program (List Nat) := do
  Program.perform .begin
  let affected ← store.insertInside model rows
  if commits then Program.perform .commit else Program.perform .rollback
  return affected

end Datastore

end RecordStore
