import RecordStore.Proofs.Row
import RecordStore.Proofs.Search.Meaning
import RecordStore.Proofs.Sql.Inserting
import RecordStore.Store.Datastore

/-!
# What a datastore says to its store

Every statement of a datastore reads back as one command: the inserts carry the rows of the records in
the columns of the model, and reading, deleting and counting name the table and the key. What an insert
carries is also given as rows by column (`Statement.insertedRows`), the form in which two statements
with different columns can be compared.
-/

namespace RecordStore

/-! ## Definitions have columns -/

namespace ModelDefinition

variable (model : ModelDefinition)

theorem key_mem : model.key ∈ model.properties := List.getElem_mem _

theorem keyName_mem : model.key.name ∈ model.columns := List.mem_map_of_mem model.key_mem

theorem columns_ne_nil : model.columns ≠ [] := List.ne_nil_of_mem model.keyName_mem

end ModelDefinition

theorem CodecRegistry.length_encodeValues (registry : CodecRegistry) (model : ModelDefinition)
    (record : Record) : (registry.encodeValues model record).length = model.columns.length := by
  rw [encodeValues, ModelDefinition.columns, List.length_map, List.length_map]

theorem CodecRegistry.encodeValues_ne_nil (registry : CodecRegistry) (model : ModelDefinition)
    (record : Record) : registry.encodeValues model record ≠ [] := by
  intro empty
  have length := registry.length_encodeValues model record
  rw [empty] at length
  exact model.columns_ne_nil (List.length_eq_zero_iff.1 length.symm)

/-! ## Rows of an insert -/

/-- The rows that a command inserts into a table, by column. -/
def Command.insertedRows (table : String) : Command → List StoredRow
  | .insert name (some columns) rows _ => if name = table then rows.map columns.zip else []
  | _ => []

/-- The rows that a statement inserts into a table, by column. -/
def Statement.insertedRows (table : String) (statement : Statement) : List StoredRow :=
  ((Command.ofStatement? statement).map (Command.insertedRows table)).getD []

theorem Statement.insertedRows_of_command {table : String} {statement : Statement} {command : Command}
    (said : Command.ofStatement? statement = some command) :
    statement.insertedRows table = command.insertedRows table := by
  rw [insertedRows, said, Option.map_some, Option.getD_some]

/-! ## Statements -/

theorem Query.foldl_addRow (query : Query) (rows : List (List StoredValue)) :
    rows.foldl addRow query = { query with rows := query.rows ++ rows } := by
  induction rows generalizing query with
  | nil => simp
  | cons row rest ih => simp [ih, addRow]

theorem Predicate.equality_of_ne_null (column : String) {value : StoredValue} (present : value ≠ .null) :
    equality column value = .compare column .equal value := by
  cases value with
  | null => exact absurd rfl present
  | _ => rfl

/-- An equality is written as it is in every dialect. -/
theorem Predicate.writtenConditions_equality (dialect : Dialect) (column : String)
    (value : StoredValue) :
    firstByAnd (writtenConditions dialect [(.and, equality column value)]) =
      [(.and, equality column value)] := by
  unfold equality
  split
  · rfl
  · cases dialect <;> rfl

namespace Datastore

variable (store : Datastore) (model : ModelDefinition)

theorem insertQuery_eq (rows : List (List StoredValue)) :
    store.insertQuery model rows =
      { kind := .insert, table := some (store.tableName model), columns := model.columns, rows } := by
  rw [insertQuery, Query.foldl_addRow]
  rfl

/-- An insert says the table, the columns and the rows. -/
theorem command_insertQuery {rows : List (List StoredValue)} (nonempty : rows ≠ [])
    (filled : ∀ row ∈ rows, row ≠ []) :
    Command.ofStatement? (store.statement (store.insertQuery model rows)) =
      some (.insert (store.tableName model) (some model.columns) rows none) := by
  rw [statement, insertQuery_eq]
  exact Query.ofStatement?_toStatement_of_insert _ store.dialect rfl rfl model.columns_ne_nil nonempty
    filled

/-- An upsert says the row of the record and that every column but the key is overwritten. -/
theorem command_upsertQuery (record : Record) :
    Command.ofStatement? (store.statement (store.upsertQuery model record)) =
      some (.insert (store.tableName model) (some model.columns)
        [store.codecs.encodeValues model record]
        (some ⟨model.key.name, model.columns.filter (· ≠ model.key.name)⟩)) := by
  rw [statement, upsertQuery, insertQuery_eq]
  refine Query.ofStatement?_toStatement_of_insert _ store.dialect rfl rfl model.columns_ne_nil
    (List.cons_ne_nil _ _) fun row member => ?_
  rw [List.mem_singleton.1 member]
  exact store.codecs.encodeValues_ne_nil model record

/-- Looking up a key says the table and the key, and asks for one row. -/
theorem command_keyQuery (key : Json) :
    Command.ofStatement? (store.statement (store.keyQuery model key)) =
      some (.select .rows (store.tableName model)
        [(.and, .equality model.key.name (store.codecs.encodeKey model key))] [] (some 1) none) := by
  have said := (store.keyQuery model key).ofStatement?_eq_command store.dialect rfl nofun
  rw [statement, said]
  exact congrArg (fun conditions => some (Command.select .rows _ conditions [] (some 1) none))
    (Predicate.writtenConditions_equality store.dialect _ _)

/-- Deleting says the table and the key. -/
theorem command_deleteQuery (key : Json) :
    Command.ofStatement? (store.statement (store.deleteQuery model key)) =
      some (.delete (store.tableName model)
        [(.and, .equality model.key.name (store.codecs.encodeKey model key))]) := by
  have said := (store.deleteQuery model key).ofStatement?_eq_command store.dialect rfl nofun
  rw [statement, said]
  exact congrArg (fun conditions => some (Command.delete _ conditions))
    (Predicate.writtenConditions_equality store.dialect _ _)

/-- Counting says the table and that all its rows count. -/
theorem command_countQuery :
    Command.ofStatement? (store.statement (store.countQuery model)) =
      some (.select (.count "count") (store.tableName model) [] [] none none) :=
  (store.countQuery model).ofStatement?_eq_command store.dialect rfl nofun

/-- The query of a search on the table of the model. -/
def searchQuery (search : Search) : Query :=
  search.query store.codecs model (store.tableName model)

/-- The selection that a search asks for, with a page. -/
def selection (search : Search) (limit offset : Option Nat) : Command :=
  .select .rows (store.tableName model)
    (Predicate.firstByAnd
      (Predicate.writtenConditions store.dialect (store.searchQuery model search).conditions))
    (store.searchQuery model search).order limit offset

/-- Searching says the table, the conditions, the order and the page of the search. -/
theorem command_searchQuery (search : Search) :
    Command.ofStatement? (store.statement (store.searchQuery model search)) =
      some (store.selection model search ((positiveCount search.take).map UInt64.toNat)
        ((positiveCount search.page).map UInt64.toNat)) :=
  (store.searchQuery model search).ofStatement?_eq_command store.dialect rfl nofun

/-! ## Rows that are written -/

/-- Saving inserts the row of the record, into the table of the model. -/
theorem insertedRows_upsertQuery (table : String) (record : Record) :
    (store.statement (store.upsertQuery model record)).insertedRows table =
      if store.tableName model = table then [store.codecs.encodeRecord model record] else [] := by
  rw [Statement.insertedRows_of_command (store.command_upsertQuery model record),
    Command.insertedRows]
  rfl

/-- Looking up a key inserts nothing. -/
theorem insertedRows_keyQuery (table : String) (key : Json) :
    (store.statement (store.keyQuery model key)).insertedRows table = [] := by
  rw [Statement.insertedRows_of_command (store.command_keyQuery model key)]
  rfl

end Datastore

end RecordStore
