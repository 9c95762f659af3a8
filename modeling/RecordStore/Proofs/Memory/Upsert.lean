import RecordStore.Proofs.Except
import RecordStore.Proofs.Memory.Answers
import RecordStore.Proofs.Row

/-!
# Rows that an upsert leaves

An upsert appends its row or merges it into every row in its way. Whichever it is, a row that is found by
the key afterwards holds what was written in every column but the key (`Table.cell_of_insertRow`), where
it may hold another value that is equal to it. A column that holds a value is found by that value
(`Table.satisfies_of_cell`), null by its absence.
-/

namespace RecordStore

/-! ## Rows that are found -/

namespace Table

variable {γ : Type} (table : Table γ) (kind : CellKind γ) (row : List γ) (column : String)

/-- Whether a column equals a value. -/
theorem satisfies_equality (value : StoredValue) :
    table.satisfies kind [(.and, .equality column value)] row =
      if value.isNull then kind.isNull (table.cell kind row column)
      else kind.equals (table.cell kind row column) (kind.ofStored value) := by
  rw [Predicate.equality]
  split
  · change (some (kind.isNull (table.cell kind row column)) == some true) = _
    cases kind.isNull (table.cell kind row column) <;> rfl
  · rfl

variable {table kind row} in
/-- A selected row is one of the table that satisfies the conditions. -/
theorem of_mem_select {conditions : List Condition} {limit offset : Option Nat}
    (selected : row ∈ table.select kind conditions [] limit offset) :
    row ∈ table.rows ∧ table.satisfies kind conditions row = true := by
  have within : row ∈ (table.rows.filter (table.satisfies kind conditions)).drop (offset.getD 0) := by
    cases limit with
    | none => exact selected
    | some limit => exact List.mem_of_mem_take selected
  exact List.mem_filter.1 (List.mem_of_mem_drop within)

end Table

section Kept

variable {order : StoredValue → StoredValue → Ordering}
  {like likeAnyCase : StoredValue → StoredValue → Bool}

/-- Two values are equal where neither is null and their order says so. -/
theorem CellKind.equals_kept_iff {left right : StoredValue} :
    (kept order like likeAnyCase).equals left right = true ↔
      left.isNull = false ∧ right.isNull = false ∧ order left right = .eq := by
  cases leftNull : left.isNull <;> cases rightNull : right.isNull <;>
    simp [equals, compares, kept, leftNull, rightNull]

variable {table : Table StoredValue} {row stored : List StoredValue} {column : String}
  {value : StoredValue}

/-- A column equals the value that it holds. -/
theorem Table.satisfies_of_cell (reflexive : ∀ value, order value value = .eq)
    (holds : table.cell (.kept order like likeAnyCase) row column = value) :
    table.satisfies (.kept order like likeAnyCase) [(.and, .equality column value)] row = true := by
  rw [satisfies_equality, holds]
  split
  · next null => exact null
  · next there =>
    have present := Bool.eq_false_iff.2 there
    exact CellKind.equals_kept_iff.2 ⟨present, present, reflexive value⟩

/-- A row whose key column equals the key of another has the same key as that one. -/
theorem Table.sameKey_of_satisfies
    (symmetric : ∀ left right, order left right = .eq → order right left = .eq)
    (holds : table.cell (.kept order like likeAnyCase) row table.key = value) (present : value ≠ .null)
    (satisfied : table.satisfies (.kept order like likeAnyCase) [(.and, .equality table.key value)]
      stored = true) :
    table.sameKey (.kept order like likeAnyCase) row stored = true := by
  have there : ¬value.isNull = true := fun null => present (StoredValue.isNull_iff.1 null)
  rw [satisfies_equality, if_neg there] at satisfied
  obtain ⟨storedThere, valueThere, equal⟩ := CellKind.equals_kept_iff.1 satisfied
  rw [sameKey, keyOf, holds]
  exact CellKind.equals_kept_iff.2 ⟨valueThere, storedThere, symmetric _ _ equal⟩

end Kept

/-! ## Rows that are written -/

namespace Table

variable {γ : Type} {table : Table γ} {kind : CellKind γ}

/-- A row that is given column by column. -/
theorem cell_map_columns (cellOf : String → γ) {column : String} (member : column ∈ table.columns) :
    table.cell kind (table.columns.map cellOf) column = cellOf column := by
  have entries : ∀ columns : List String, column ∈ columns →
      (columns.zip (columns.map cellOf)).lookup column = some (cellOf column) := by
    intro columns
    induction columns with
    | nil => nofun
    | cons first rest ih =>
      intro member
      rw [List.map_cons, List.zip_cons_cons, List.lookup_cons]
      cases same : column == first with
      | true => rw [beq_iff_eq.1 same]
      | false => exact ih (List.mem_of_ne_of_mem (beq_eq_false_iff_ne.1 same) member)
  rw [cell, entries table.columns member, Option.getD_some]

theorem cell_rowOf (columns : List String) (cells : List γ) {column : String}
    (member : column ∈ table.columns) :
    table.cell kind (table.rowOf kind columns cells) column =
      ((columns.zip cells).lookup column).getD kind.null :=
  cell_map_columns _ member

theorem cell_merge {merged : List String} (old new : List γ) {column : String}
    (member : column ∈ table.columns) (taken : column ∈ merged) :
    table.cell kind (table.merge kind merged old new) column = table.cell kind new column := by
  rw [merge, cell_map_columns _ member, if_pos taken]

/-- A row with the key of one that was upserted holds what was written in every merged column. -/
theorem cell_of_insertRow {conflict : Conflict} {new : List γ} {rows after : List (List γ)}
    {changed : Nat} (inserted : table.insertRow kind (some conflict) new rows = some (after, changed))
    {stored : List γ} (found : stored ∈ after) (same : table.sameKey kind new stored = true)
    {column : String} (member : column ∈ table.columns) (merged : column ∈ conflict.merged) :
    table.cell kind stored column = table.cell kind new column := by
  -- An upsert that merges nothing leaves the row in its way, but then no column is merged.
  obtain ⟨key, _ | ⟨first, others⟩⟩ := conflict
  · cases merged
  · rw [insertRow] at inserted
    split at inserted
    · cases inserted
      obtain ⟨old, -, rfl⟩ := List.mem_map.1 found
      split
      · exact cell_merge old new member merged
      · next apart =>
        rw [if_neg apart] at same
        exact absurd same apart
    · next untaken =>
      cases inserted
      rcases List.mem_append.1 found with before | own
      · exact absurd (List.any_eq_true.2 ⟨stored, before, same⟩) untaken
      · rw [List.mem_singleton.1 own]
    · exact nofun

theorem insertRows_singleton (conflict : Option Conflict) (row : List γ) (rows : List (List γ)) :
    table.insertRows kind conflict [row] rows = table.insertRow kind conflict row rows := by
  rw [insertRows]
  cases table.insertRow kind conflict row rows <;> rfl

end Table

/-! ## Statements that succeed -/

namespace Database

variable {γ : Type} {kind : CellKind γ} {database : Database γ} {name : String} {table : Table γ}

/-- A table is found with the rows that it was given. -/
theorem lookup_setRows (found : database.tables.lookup name = some table) (rows : List (List γ)) :
    (database.setRows name rows).tables.lookup name = some { table with rows } := by
  rw [setRows]
  generalize database.tables = tables at found
  induction tables with
  | nil => cases found
  | cons entry rest ih =>
    obtain ⟨other, first⟩ := entry
    rw [List.lookup_cons] at found
    rw [List.map_cons, List.lookup_cons]
    cases same : name == other with
    | true =>
      rw [same] at found
      cases found
      simp [beq_iff_eq.1 same]
    | false =>
      rw [same] at found
      exact ih found

/-- A statement that succeeds ran on the table that it names. -/
theorem of_runStatement {statement : Statement} {command : Command} {outcome : Outcome γ}
    (said : Command.ofStatement? statement = some command)
    (ran : database.runStatement kind statement = .ok outcome) :
    ∃ table, database.tables.lookup command.table = some table ∧
      database.runOn kind table command = .ok outcome := by
  simp only [runStatement, said] at ran
  split at ran
  · cases ran
  · next table found => exact ⟨table, found, ran⟩

/-- What an insert of one row that succeeds has done. -/
theorem of_runOn_insert {columns : List String} {row : List StoredValue} {conflict : Conflict}
    {outcome : Outcome γ}
    (ran : database.runOn kind table (.insert name (some columns) [row] (some conflict)) = .ok outcome) :
    (∀ column ∈ columns, column ∈ table.columns) ∧ conflict.key = table.key ∧ ∃ after changed,
      table.insertRow kind (some conflict) (table.rowOf kind columns (row.map kind.ofStored)) table.rows =
        some (after, changed) ∧ outcome.database = database.setRows name after := by
  rw [runOn] at ran
  obtain ⟨_, named, ran⟩ := bind_eq_ok_iff.1 ran
  have declared := checkColumns_eq_ok_iff.1 named
  obtain ⟨_, _, ran⟩ := bind_eq_ok_iff.1 ran
  dsimp only at ran
  split at ran
  · cases ran
  · next ownKey =>
    have key : conflict.key = table.key := by simpa using ownKey
    obtain ⟨_, _, ran⟩ := bind_eq_ok_iff.1 ran
    simp only [List.map_singleton, Option.getD_some, Table.insertRows_singleton] at ran
    split at ran
    · next after changed inserted =>
      cases ran
      exact ⟨declared, key, after, changed, inserted, rfl⟩
    · cases ran

end Database

end RecordStore
