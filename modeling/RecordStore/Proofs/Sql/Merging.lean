import RecordStore.Proofs.Row
import RecordStore.Proofs.Sql.BoundValues
import RecordStore.Proofs.Sql.Inserting
import RecordStore.Proofs.Sql.WhereClause

/-!
# Rows and merges of an insert

The statement of an insert carries every row under the columns of the insert, with null as a word and
all other values as parameters. Where its key is taken it takes over the other columns, each of them
once, and says that nothing happens only if there are no others (`Query.insert_carries_rows`).
-/

namespace RecordStore

/-! ## Inserts -/

/-- An insert into a table of at least one row, with different columns and a value for each of them in
every row. -/
structure Query.IsInsert (query : Query) (table : String) : Prop where
  kind : query.kind = .insert
  onTable : query.table = some table
  nodup : query.columns.Nodup
  someColumn : query.columns ≠ []
  someRow : query.rows ≠ []
  filled : ∀ row ∈ query.rows, row.length = query.columns.length

/-- The merged columns are the inserted ones other than the key, each once and in their order. -/
structure MergesOthers (columns : List String) (key : String) (merged : List String) : Prop where
  inOrder : merged.Sublist columns
  once : merged.Nodup
  others : ∀ column, column ∈ merged ↔ column ∈ columns ∧ column ≠ key

theorem Query.mergesOthers {query : Query} (nodup : query.columns.Nodup) (key : String) :
    MergesOthers query.columns key (query.mergedColumns key) where
  inOrder := List.filter_sublist
  once := nodup.sublist List.filter_sublist
  others column := by simp only [mergedColumns, List.mem_filter, decide_eq_true_eq]

/-- No column is merged only where the key is the only one. -/
theorem Query.mergedColumns_eq_nil_iff {query : Query} (nodup : query.columns.Nodup)
    (someColumn : query.columns ≠ []) (key : String) :
    query.mergedColumns key = [] ↔ query.columns = [key] := by
  rw [mergedColumns]
  match columns : query.columns with
  | [] => exact absurd columns someColumn
  | [column] => simp
  | first :: second :: others =>
    refine iff_of_false (fun none => ?_) (by simp)
    have allKey := List.filter_eq_nil_iff.1 none
    have firstKey : first = key := by simpa using allKey first List.mem_cons_self
    have secondKey : second = key := by simpa using allKey second (by simp)
    rw [columns, firstKey, secondKey, List.nodup_cons] at nodup
    exact nodup.1 List.mem_cons_self

/-- A row has under each column the value at the place of the column. -/
theorem StoredRow.value_zip {columns : List String} (nodup : columns.Nodup) {row : List StoredValue}
    (filled : row.length = columns.length) {place : Nat} {column : String}
    (named : columns[place]? = some column) :
    row[place]? = some (StoredRow.value (columns.zip row) column) := by
  obtain ⟨inside, -⟩ := List.getElem?_eq_some_iff.1 named
  have held : row[place]? = some row[place] := List.getElem?_eq_getElem (filled ▸ inside)
  have names : (columns.zip row).map (·.1) = columns := List.map_fst_zip (Nat.le_of_eq filled.symm)
  have member : (column, row[place]) ∈ columns.zip row :=
    List.mem_of_getElem? (List.getElem?_zip_eq_some.2 ⟨named, held⟩)
  rw [value, lookup_eq_some_of_mem (names.symm ▸ nodup) member, Option.getD_some, held]

/-! ## Doing nothing -/

/-- The tokens of words stand together in a text. -/
theorem Fragment.infix_scanned (dialect : Dialect) {text : String} {found : List SqlToken}
    (cut : SqlToken.scan text.toList = some found) {fragments : List Fragment}
    (member : .words text ∈ fragments) (index : Nat) : found <:+: scanned dialect index fragments := by
  induction fragments generalizing index with
  | nil => cases member
  | cons fragment rest ih =>
    rw [scanned]
    rcases List.mem_cons.1 member with here | later
    · subst fragment
      rw [tokens, cut, Option.getD_some]
      exact (List.prefix_append found _).isInfix
    · exact (ih later _).trans (List.suffix_append _ _).isInfix

namespace Query

variable (query : Query) (dialect : Dialect)

theorem nothing_notMem_rowFragments (row : List StoredValue) :
    .word "NOTHING" ∉ spelled dialect (rowFragments row) := by
  have value (bound : StoredValue) :
      .word "NOTHING" ∉ Fragment.tokens dialect .value (.value bound) := by
    rw [Fragment.tokens]
    split <;> simp
  simpa [spelled_rowFragments] using word_notMem_intercalate value row

/-- A conflict is said to do nothing exactly if no column is merged. -/
theorem nothing_mem_conflictFragments_iff :
    .word "NOTHING" ∈ spelled dialect query.conflictFragments ↔
      ∃ key, query.conflictKey = some key ∧ query.mergedColumns key = [] := by
  unfold conflictFragments
  cases query.conflictKey with
  | none => exact iff_of_false List.not_mem_nil nofun
  | some key =>
    have assigned (column : String) : .word "NOTHING" ∉
        spelled dialect [.name column, .words " = excluded.", .name column] := by
      rw [spelled_name, spelled_words dialect " = excluded."
        [.symbol "=", .word "excluded", .symbol "."] rfl]
      simp [spelled, Fragment.tokens]
    dsimp only
    rw [spelled_conflictTarget]
    simp only [Option.some_inj, exists_eq_left']
    cases columns : query.mergedColumns key with
    | nil =>
      rw [spelled_words dialect " DO NOTHING" [.word "DO", .word "NOTHING"] rfl]
      exact iff_of_true (by simp) rfl
    | cons first others =>
      have merged := word_notMem_separated dialect assigned (first :: others)
      rw [spelled_words dialect " DO UPDATE SET " [.word "DO", .word "UPDATE", .word "SET"] rfl]
      refine iff_of_false ?_ (List.cons_ne_nil first others)
      simpa using merged

/-- An insert says that nothing happens if it has a conflict without merged columns, and nowhere else. -/
theorem nothing_mem_insert_iff (kind : query.kind = .insert) :
    .word "NOTHING" ∈ spelled dialect query.fragments ↔
      ∃ key, query.conflictKey = some key ∧ query.mergedColumns key = [] := by
  have column (name : String) : .word "NOTHING" ∉ [SqlToken.name name] := by simp
  have columns := word_notMem_intercalate column query.columns
  have rows := word_notMem_intercalate (nothing_notMem_rowFragments dialect) query.rows
  have target : .word "NOTHING" ∉ spelled dialect query.targetFragments := by
    unfold targetFragments
    split <;> simp [spelled, Fragment.tokens]
  rw [← query.nothing_mem_conflictFragments_iff dialect, query.spelled_insert dialect kind]
  simp [columns, rows, target]

/-- The text of an insert says DO NOTHING exactly if it has a conflict without merged columns. -/
theorem exists_scan_doNothing_iff (kind : query.kind = .insert) :
    ∃ tokens, SqlToken.scan (query.toStatement dialect).text.toList = some tokens ∧
      ([.word "DO", .word "NOTHING"] <:+: tokens ↔
        ∃ key, query.conflictKey = some key ∧ query.mergedColumns key = []) := by
  refine ⟨Fragment.scanned dialect 0 query.fragments, ?_, ?_⟩
  · rw [toStatement, String.toList_ofList, Fragment.scan_render dialect query.spaced_fragments]
  · constructor
    · intro stands
      rw [← query.nothing_mem_insert_iff dialect kind, ← Fragment.mem_word_scanned dialect _ 0]
      exact stands.subset (List.mem_cons_of_mem _ List.mem_cons_self)
    · rintro ⟨key, merges, none⟩
      have words : .words " DO NOTHING" ∈ query.fragments := by
        simp [fragments, kind, conflictFragments, merges, none]
      exact Fragment.infix_scanned dialect rfl words 0

/-- The statement of an insert reads back as its table, its columns in order and its rows in order, with
each value at its own column. Parameters are the values other than null. The key of a conflict is the
one given, all other columns are merged, and the text says DO NOTHING exactly if there are none. -/
theorem insert_carries_rows {query : Query} {table : String} (insert : query.IsInsert table)
    (dialect : Dialect) :
    let statement := query.toStatement dialect
    Command.ofStatement? statement = some (.insert table (some query.columns) query.rows
        (query.conflictKey.map fun key => ⟨key, query.mergedColumns key⟩)) ∧
      statement.params = query.rows.flatten.filter (!·.isNull) ∧
      (∀ row ∈ query.rows, ∀ (place : Nat) (column : String), query.columns[place]? = some column →
        row[place]? = some (StoredRow.value (query.columns.zip row) column)) ∧
      (∀ key, MergesOthers query.columns key (query.mergedColumns key)) ∧
      ∃ tokens, SqlToken.scan statement.text.toList = some tokens ∧
        ([.word "DO", .word "NOTHING"] <:+: tokens ↔
          ∃ key, query.conflictKey = some key ∧ query.columns = [key]) := by
  have full (row : List StoredValue) (member : row ∈ query.rows) : row ≠ [] := by
    rintro rfl
    exact insert.someColumn (List.length_eq_zero_iff.1 (insert.filled [] member).symm)
  have read := query.ofStatement?_toStatement_of_insert dialect insert.onTable insert.kind
    insert.someColumn insert.someRow full
  have params := query.params_toStatement dialect
  obtain ⟨tokens, scanned, nothing⟩ := query.exists_scan_doNothing_iff dialect insert.kind
  simp only [mergedColumns_eq_nil_iff insert.nodup insert.someColumn] at nothing
  rw [command, insert.kind] at read
  rw [boundValues, insert.kind] at params
  exact ⟨read, params,
    fun row member _ _ named => StoredRow.value_zip insert.nodup (insert.filled row member) named,
    mergesOthers insert.nodup, tokens, scanned, nothing⟩

/-- Quotes, placeholders and NULL in names do not shift the values behind them. -/
theorem insert_carries_rows_quoted :
    let query : Query :=
      { kind := .insert
        table := some "a \" ?"
        columns := ["$1", "id\"", "?, NULL"]
        rows := [[.null, .string "x", .integer 5], [.bool true, .null, .string "'); --"]]
        conflictKey := some "id\"" }
    query.IsInsert "a \" ?" ∧
      Command.ofStatement? (query.toStatement .postgres) =
        some (.insert "a \" ?" (some ["$1", "id\"", "?, NULL"])
          [[.null, .string "x", .integer 5], [.bool true, .null, .string "'); --"]]
          (some ⟨"id\"", ["$1", "?, NULL"]⟩)) ∧
      (query.toStatement .postgres).params =
        [.string "x", .integer 5, .bool true, .string "'); --"] := by
  intro query
  have insert : query.IsInsert "a \" ?" :=
    ⟨rfl, rfl, by decide, List.cons_ne_nil _ _, List.cons_ne_nil _ _, by decide⟩
  obtain ⟨read, params, -⟩ := insert_carries_rows insert .postgres
  exact ⟨insert, read, params⟩

end Query

end RecordStore
