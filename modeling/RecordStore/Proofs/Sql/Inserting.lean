import RecordStore.Proofs.Sql.Reading

/-!
# Reading an insert back

The statement of an insert says its table, its columns, its rows in order and what happens on a
conflict (`Query.ofStatement?_toStatement_of_insert`), if it has a column and a row and no row is
empty: SQL has no word for a list of nothing.
-/

namespace RecordStore

namespace Command

/-- Items with commas between them are read one by one when the tokens that are left are the limit. -/
theorem commaSeparated_length {α : Type} {item : Reader α} {spelling : α → List SqlToken}
    (rest : List SqlToken) (noComma : symbol "," rest = none) {entries : List α}
    (each : ∀ entry ∈ entries, ∀ after, item (spelling entry ++ after) = some (entry, after))
    (positive : ∀ entry, 0 < (spelling entry).length) (nonempty : entries ≠ []) :
    commaSeparated item
        ([SqlToken.symbol ","].intercalate (entries.map spelling) ++ rest).length
        ([SqlToken.symbol ","].intercalate (entries.map spelling) ++ rest) =
      some (entries, rest) := by
  have room := length_le_of_intercalate positive entries
  refine commaSeparated_intercalate noComma each nonempty ?_
  rw [List.length_append]
  exact Nat.le_add_right_of_le room

/-- Items in parentheses with commas between them are read one by one. -/
theorem parenthesized_intercalate {α : Type} {item : Reader α} {spelling : α → List SqlToken}
    {entries : List α} (each : ∀ entry ∈ entries, ∀ after,
      item (spelling entry ++ after) = some (entry, after))
    (positive : ∀ entry, 0 < (spelling entry).length) (nonempty : entries ≠ [])
    (rest : List SqlToken) :
    parenthesized item (.symbol "(" ::
        ([SqlToken.symbol ","].intercalate (entries.map spelling) ++ .symbol ")" :: rest)) =
      some (entries, rest) := by
  have items := commaSeparated_length (.symbol ")" :: rest) rfl each positive nonempty
  simp only [parenthesized, symbol, if_true, Option.bind_eq_bind, Option.bind_some, items,
    Option.pure_def]

end Command

namespace Query

variable (query : Query) (dialect : Dialect)

theorem spelled_insert (kind : query.kind = .insert) :
    spelled dialect query.fragments =
      .word "INSERT" :: .word "INTO" :: (spelled dialect query.targetFragments ++
        .symbol "(" :: ([SqlToken.symbol ","].intercalate
            (query.columns.map fun column => [.name column]) ++
          .symbol ")" :: .word "VALUES" :: ([SqlToken.symbol ","].intercalate
              (query.rows.map fun row => spelled dialect (rowFragments row)) ++
            spelled dialect query.conflictFragments))) := by
  have columns : (query.columns.map fun column => [Fragment.name column]).map (spelled dialect) =
      query.columns.map fun column => [.name column] := by
    rw [List.map_map]
    rfl
  simp only [fragments, kind, List.cons_append, spelled_append, List.append_assoc, List.nil_append,
    spelled_words dialect "INSERT INTO " [.word "INSERT", .word "INTO"] rfl,
    spelled_words dialect " (" [.symbol "("] rfl,
    spelled_words dialect ") VALUES " [.symbol ")", .word "VALUES"] rfl,
    spelled_separated, columns, List.map_map, Function.comp_def]

/-- A row is spelled as its values in parentheses. -/
theorem spelled_rowFragments (row : List StoredValue) :
    spelled dialect (rowFragments row) =
      .symbol "(" :: ([SqlToken.symbol ","].intercalate
        (row.map fun value => Fragment.tokens dialect .value (.value value)) ++ [.symbol ")"]) := by
  have values : (row.map fun value => [Fragment.value value]).map (spelled dialect) =
      row.map fun value => Fragment.tokens dialect .value (.value value) := by
    rw [List.map_map]
    refine List.map_congr_left fun value _ => ?_
    simp [spelled]
  rw [rowFragments, List.cons_append, spelled_words dialect "(" [.symbol "("] rfl, spelled_append,
    spelled_separated, values, spelled_words dialect ")" [.symbol ")"] rfl]
  rfl

/-- A row is read value by value. -/
theorem read_rowFragments {row : List StoredValue} (filled : row ≠ []) (rest : List SqlToken) :
    Command.parenthesized Command.operand (spelled dialect (rowFragments row) ++ rest) =
      some (row, rest) := by
  have positive (value : StoredValue) :
      0 < (Fragment.tokens dialect .value (.value value)).length := by
    cases value <;> exact Nat.zero_lt_one
  rw [spelled_rowFragments, List.cons_append, List.append_assoc]
  exact Command.parenthesized_intercalate
    (fun value _ => Command.operand_spelled dialect value) positive filled rest

/-- A conflict is spelled with its key in parentheses before what happens. -/
theorem spelled_conflictTarget (key : String) (rest : List Fragment) :
    spelled dialect ([.words " ON CONFLICT (", .name key, .words ")"] ++ rest) =
      .word "ON" :: .word "CONFLICT" :: .symbol "(" :: .name key :: .symbol ")" ::
        spelled dialect rest := by
  rw [List.cons_append, List.cons_append, List.singleton_append,
    spelled_words dialect " ON CONFLICT (" [.word "ON", .word "CONFLICT", .symbol "("] rfl,
    spelled_name, spelled_words dialect ")" [.symbol ")"] rfl]
  rfl

/-- What happens on a conflict is read as the query says it, at the end of the statement. -/
theorem read_conflictFragments :
    Command.conflictClause (spelled dialect query.conflictFragments) =
      some (query.conflictKey.map fun key => ⟨key, query.mergedColumns key⟩, []) := by
  unfold conflictFragments
  cases query.conflictKey with
  | none => rfl
  | some key =>
    dsimp only
    rw [spelled_conflictTarget]
    cases columns : query.mergedColumns key with
    | nil =>
      rw [spelled_words dialect " DO NOTHING" [.word "DO", .word "NOTHING"] rfl]
      simp only [Command.conflictClause, List.cons_append, Option.map_some, columns]
      rfl
    | cons first others =>
      have item (column : String) (after : List SqlToken) : Command.mergedColumn
          (spelled dialect [.name column, .words " = excluded.", .name column] ++ after) =
            some (column, after) := by
        rw [spelled_name, spelled_words dialect " = excluded."
          [.symbol "=", .word "excluded", .symbol "."] rfl]
        exact if_pos rfl
      have positive (column : String) :
          0 < (spelled dialect [.name column, .words " = excluded.", .name column]).length := by
        simp [spelled_name]
      have items := Command.commaSeparated_length [] rfl (fun column _ => item column)
        positive (List.cons_ne_nil first others)
      rw [List.append_nil] at items
      rw [spelled_words dialect " DO UPDATE SET " [.word "DO", .word "UPDATE", .word "SET"] rfl,
        spelled_separated, List.map_map]
      simp only [Command.conflictClause, List.cons_append, List.nil_append, Option.map_some, columns]
      rw [show ((first :: others).map (spelled dialect ∘ fun column =>
        [.name column, .words " = excluded.", .name column])) = (first :: others).map fun column =>
          spelled dialect [.name column, .words " = excluded.", .name column] from rfl, items]
      rfl

/-- Rows are followed by what happens on a conflict, or by nothing. -/
theorem head_spelled_conflictFragments {token : SqlToken}
    (head : (spelled dialect query.conflictFragments).head? = some token) : token = .word "ON" := by
  revert head
  unfold conflictFragments
  cases query.conflictKey with
  | none => exact nofun
  | some key =>
    dsimp only
    rw [spelled_conflictTarget]
    rintro ⟨⟩
    rfl

/-- What an insert spells is its command. -/
theorem read_insert {table : String} (onTable : query.table = some table)
    (kind : query.kind = .insert) (columns : query.columns ≠ []) (rows : query.rows ≠ [])
    (filled : ∀ row ∈ query.rows, row ≠ []) :
    Command.read (spelled dialect query.fragments) = some (query.command dialect table, []) := by
  have column (name : String) (_ : name ∈ query.columns) (after : List SqlToken) :
      Command.identifier ([.name name] ++ after) = some (name, after) := rfl
  have named := Command.parenthesized_intercalate column (fun _ => Nat.zero_lt_one) columns
  have noComma : Command.symbol "," (spelled dialect query.conflictFragments) = none :=
    Command.symbol_eq_none fun same => by
      cases query.head_spelled_conflictFragments dialect same
  have positive (row : List StoredValue) : 0 < (spelled dialect (rowFragments row)).length := by
    rw [spelled_rowFragments]
    exact Nat.zero_lt_succ _
  have values := Command.commaSeparated_length _ noComma
    (fun row member => read_rowFragments dialect (filled row member)) positive rows
  have conflict := query.read_conflictFragments dialect
  simp only [query.spelled_insert dialect kind, query.spelled_targetFragments dialect onTable,
    List.cons_append, List.nil_append, Command.read, Command.columnClause, named, Option.map_some,
    Option.bind_eq_bind, Option.bind_some, Command.keyword, if_true, values, conflict,
    Option.pure_def, command, kind]

/-- The statement of an insert reads back as the command of the query. -/
theorem ofStatement?_toStatement_of_insert {table : String} (onTable : query.table = some table)
    (kind : query.kind = .insert) (columns : query.columns ≠ []) (rows : query.rows ≠ [])
    (filled : ∀ row ∈ query.rows, row ≠ []) :
    Command.ofStatement? (query.toStatement dialect) = some (query.command dialect table) := by
  obtain ⟨tokens, scanned, resolved⟩ :=
    Option.bind_eq_some_iff.1 (query.resolve_scan_toStatement dialect)
  have read := query.read_insert dialect onTable kind columns rows filled
  rw [spelled] at read
  simp only [Command.ofStatement?, scanned, resolved, read, Option.bind_eq_bind, Option.bind_some,
    List.isEmpty_nil, if_true]

end Query

end RecordStore
