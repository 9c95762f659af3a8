import RecordStore.Proofs.Sql.Parentheses

/-!
# Reading a statement back

The text and the parameters of a select, count or delete say what its query asks for and nothing else:
they read back as the command of the query (`Query.ofStatement?_toStatement`), whatever stands in its
identifiers and however its conditions are nested.
-/

namespace RecordStore

/-- What a query asks of a table. -/
def Query.command (query : Query) (dialect : Dialect) (table : String) : Command :=
  let conditions := Predicate.firstByAnd (Predicate.writtenConditions dialect query.conditions)
  match query.kind with
  | .select =>
    .select .rows table conditions query.order (query.limit.map UInt64.toNat)
      (query.offset.map UInt64.toNat)
  | .count => .select (.count "count") table conditions [] none none
  | .insert =>
    .insert table (some query.columns) query.rows
      (query.conflictKey.map fun key => ⟨key, query.mergedColumns key⟩)
  | .delete => .delete table conditions

namespace Command

/-! ## Reading clauses -/

theorem keyword_eq_none {text : String} {tokens : List SqlToken}
    (differs : tokens.head? ≠ some (.word text)) : keyword text tokens = none := by
  unfold keyword
  split
  · next found _ =>
    have other : found ≠ text := fun same => differs (by rw [same]; rfl)
    exact if_neg other
  · rfl

theorem symbol_eq_none {text : String} {tokens : List SqlToken}
    (differs : tokens.head? ≠ some (.symbol text)) : symbol text tokens = none := by
  unfold symbol
  split
  · next found _ =>
    have other : found ≠ text := fun same => differs (by rw [same]; rfl)
    exact if_neg other
  · rfl

theorem intercalate_cons_cons {α : Type} (separator first second : List α)
    (others : List (List α)) :
    separator.intercalate (first :: second :: others) =
      first ++ (separator ++ separator.intercalate (second :: others)) := by
  simp [List.intercalate]

/-- Items with commas between them are read one by one, if no comma follows. -/
theorem commaSeparated_intercalate {α : Type} {item : Reader α} {spelling : α → List SqlToken}
    {rest : List SqlToken} (noComma : symbol "," rest = none) {entries : List α}
    (each : ∀ entry ∈ entries, ∀ after, item (spelling entry ++ after) = some (entry, after))
    (nonempty : entries ≠ []) {limit : Nat} (room : entries.length ≤ limit) :
    commaSeparated item limit
        ([SqlToken.symbol ","].intercalate (entries.map spelling) ++ rest) =
      some (entries, rest) := by
  induction entries generalizing limit with
  | nil => exact absurd rfl nonempty
  | cons first others ih =>
    obtain ⟨limit, rfl⟩ := Nat.exists_eq_add_of_le' (Nat.le_trans (Nat.le_add_left 1 _) room)
    have here := each first List.mem_cons_self
    cases others with
    | nil =>
      have read := here rest
      simp [commaSeparated, List.intercalate, read, noComma]
    | cons second others =>
      have tail := ih (fun entry member => each entry (List.mem_cons_of_mem _ member))
        (List.cons_ne_nil _ _) (Nat.le_of_succ_le_succ room)
      rw [List.map_cons, List.map_cons, intercalate_cons_cons, List.append_assoc, commaSeparated, here]
      rw [List.map_cons] at tail
      simp only [Option.bind_eq_bind, Option.bind_some, List.cons_append, List.nil_append,
        symbol, if_true, tail, Option.pure_def]

/-- There is room for every item in the tokens of items that are not empty. -/
theorem length_le_of_intercalate {α : Type} {spelling : α → List SqlToken}
    (positive : ∀ entry, 0 < (spelling entry).length) (entries : List α) :
    entries.length ≤ ([SqlToken.symbol ","].intercalate (entries.map spelling)).length := by
  induction entries with
  | nil => exact Nat.zero_le _
  | cons first others ih =>
    have here := positive first
    cases others with
    | nil =>
      simp only [List.map_cons, List.map_nil, List.intercalate_singleton, List.length_singleton]
      exact here
    | cons second others =>
      rw [List.map_cons, List.map_cons, intercalate_cons_cons]
      simp only [List.map_cons, List.length_append, List.length_cons, List.length_nil] at ih ⊢
      omega

end Command

namespace Query

variable (query : Query) (dialect : Dialect)

theorem spelled_limit (count : UInt64) (rest : List Fragment) :
    spelled dialect (countFragment " LIMIT " count :: rest) =
      .word "LIMIT" :: .number count.toNat :: spelled dialect rest :=
  spelled_words dialect _ _ (Fragment.scan_limit count) rest

theorem spelled_offset (count : UInt64) (rest : List Fragment) :
    spelled dialect (countFragment " OFFSET " count :: rest) =
      .word "OFFSET" :: .number count.toNat :: spelled dialect rest :=
  spelled_words dialect _ _ (Fragment.scan_offset count) rest

/-- The page of a query is read as its limit and its offset. -/
theorem read_pageFragments :
    ∃ rest, Command.limitClause (spelled dialect query.pageFragments) =
        some (query.limit.map UInt64.toNat, rest) ∧
      Command.offsetClause rest = some (query.offset.map UInt64.toNat, []) := by
  unfold pageFragments
  cases query.limit with
  | none =>
    cases query.offset with
    | none => exact ⟨[], rfl, rfl⟩
    | some offset =>
      refine ⟨[.word "OFFSET", .number offset.toNat], ?_, rfl⟩
      rw [spelled_cons, spelled_offset]
      cases dialect <;> rfl
  | some limit =>
    cases query.offset with
    | none => exact ⟨[], by rw [spelled_limit]; rfl, rfl⟩
    | some offset =>
      exact ⟨[.word "OFFSET", .number offset.toNat], by rw [spelled_limit, spelled_offset]; rfl, rfl⟩

/-- A page begins with one of its own words. -/
theorem head_spelled_pageFragments {token : SqlToken}
    (head : (spelled dialect query.pageFragments).head? = some token) :
    token = .word "LIMIT" ∨ token = .word "OFFSET" := by
  revert head
  unfold pageFragments
  cases query.limit with
  | none =>
    cases query.offset with
    | none => exact nofun
    | some offset =>
      rw [spelled_cons, spelled_offset]
      cases dialect with
      | postgres => rintro ⟨⟩; exact .inr rfl
      | sqlite => rintro ⟨⟩; exact .inl rfl
  | some limit =>
    cases query.offset with
    | none => rw [spelled_limit]; rintro ⟨⟩; exact .inl rfl
    | some offset => rw [spelled_limit]; rintro ⟨⟩; exact .inl rfl

/-- The order of a query is read entry by entry, if neither an order nor a comma follows. -/
theorem read_orderFragments (rest : List SqlToken)
    (noComma : Command.symbol "," rest = none)
    (noOrder : ∀ after, rest ≠ .word "ORDER" :: .word "BY" :: after) :
    Command.orderClause (spelled dialect query.orderFragments ++ rest) = some (query.order, rest) := by
  unfold orderFragments
  by_cases empty : query.order.isEmpty = true
  · rw [if_pos empty, List.isEmpty_iff.1 empty]
    show Command.orderClause rest = some ([], rest)
    unfold Command.orderClause
    split
    · exact absurd rfl (noOrder _)
    · rfl
  · have item (entry : String × Direction) (after : List SqlToken) :
        Command.orderItem (spelled dialect [.name entry.1, .words entry.2.text] ++ after) =
          some (entry, after) := by
      obtain ⟨column, direction⟩ := entry
      cases direction with
      | ascending =>
        rw [spelled_name, Direction.text, spelled_words dialect " ASC" [.word "ASC"] rfl]
        rfl
      | descending =>
        rw [spelled_name, Direction.text, spelled_words dialect " DESC" [.word "DESC"] rfl]
        rfl
    have positive (entry : String × Direction) :
        0 < (spelled dialect [.name entry.1, .words entry.2.text]).length := by
      simp [spelled_name]
    have room := Command.length_le_of_intercalate positive query.order
    have nonempty : query.order ≠ [] := fun none => empty (List.isEmpty_iff.2 none)
    rw [if_neg empty, spelled_words dialect " ORDER BY " [.word "ORDER", .word "BY"] rfl,
      spelled_separated, List.map_map]
    simp only [List.cons_append, List.nil_append, Command.orderClause]
    refine Command.commaSeparated_intercalate noComma (fun entry _ => item entry) nonempty ?_
    rw [List.length_append]
    exact Nat.le_add_right_of_le room

/-- After the conditions of a select come the words of its order or of its page. -/
theorem head_spelled_orderFragments {token : SqlToken}
    (head : (spelled dialect query.orderFragments ++ spelled dialect query.pageFragments).head? =
      some token) :
    token = .word "ORDER" ∨ token = .word "LIMIT" ∨ token = .word "OFFSET" := by
  unfold orderFragments at head
  by_cases empty : query.order.isEmpty = true
  · rw [if_pos empty] at head
    exact .inr (query.head_spelled_pageFragments dialect head)
  · rw [if_neg empty, spelled_words dialect " ORDER BY " [.word "ORDER", .word "BY"] rfl] at head
    cases head
    exact .inl rfl

/-- The conditions of a query are read as the dialect writes them, if none follows. -/
theorem read_whereFragments (rest : List SqlToken) (ends : Command.NoConnector rest)
    (noWhere : Command.keyword "WHERE" rest = none) :
    Command.whereClause (spelled dialect query.whereFragments ++ rest) =
      some (Predicate.firstByAnd (Predicate.writtenConditions dialect query.conditions), rest) := by
  unfold whereFragments
  cases empty : Predicate.allEmpty query.conditions with
  | true =>
    rw [if_pos rfl, Predicate.writtenConditions_of_allEmpty dialect empty]
    show Command.whereClause rest = some ([], rest)
    rw [Command.whereClause, noWhere]
  | false =>
    have read := Command.conditions_spelled dialect query.conditions empty
      (2 * (spelled dialect (conditionFragments true query.conditions) ++ rest).length)
      (by simp only [List.length_append]; omega) ends
    rw [if_neg Bool.false_ne_true, spelled_words dialect " WHERE " [.word "WHERE"] rfl]
    exact read

theorem spelled_fromFragments {table : String} (onTable : query.table = some table) :
    spelled dialect query.fromFragments = [.word "FROM", .name table] := by
  rw [fromFragments, onTable]
  rfl

theorem spelled_targetFragments {table : String} (onTable : query.table = some table) :
    spelled dialect query.targetFragments = [.name table] := by
  rw [targetFragments, onTable]
  rfl

/-- What a select, count or delete spells is its command. -/
theorem read_fragments {table : String} (onTable : query.table = some table)
    (kind : query.kind ≠ .insert) :
    Command.read (spelled dialect query.fragments) = some (query.command dialect table, []) := by
  have last : Command.whereClause (spelled dialect query.whereFragments) =
      some (Predicate.firstByAnd (Predicate.writtenConditions dialect query.conditions), []) := by
    simpa only [List.append_nil] using
      query.read_whereFragments dialect [] Command.noConnector_nil rfl
  cases found : query.kind with
  | insert => exact absurd found kind
  | select =>
    have noConnector : Command.NoConnector
        (spelled dialect query.orderFragments ++ spelled dialect query.pageFragments) := by
      intro connector after same
      have head := query.head_spelled_orderFragments dialect (congrArg List.head? same)
      cases connector <;> simp [Connector.word] at head
    have noWhere : Command.keyword "WHERE"
        (spelled dialect query.orderFragments ++ spelled dialect query.pageFragments) = none :=
      Command.keyword_eq_none fun same => by
        simpa using query.head_spelled_orderFragments dialect same
    have noComma : Command.symbol "," (spelled dialect query.pageFragments) = none :=
      Command.symbol_eq_none fun same => by
        simpa using query.head_spelled_pageFragments dialect same
    have noOrder (after : List SqlToken) :
        spelled dialect query.pageFragments ≠ .word "ORDER" :: .word "BY" :: after := fun same => by
      simpa using query.head_spelled_pageFragments dialect (congrArg List.head? same)
    have conditions := query.read_whereFragments dialect _ noConnector noWhere
    have order := query.read_orderFragments dialect _ noComma noOrder
    obtain ⟨offset, limited, passed⟩ := query.read_pageFragments dialect
    simp only [query.spelled_select dialect found, query.spelled_fromFragments dialect onTable,
      List.cons_append, List.nil_append, command, found, Command.read, Command.selection,
      Command.keyword, Command.identifier, Option.bind_eq_bind, Option.bind_some, if_true, conditions,
      order, limited, passed, Option.pure_def]
  | count =>
    simp only [query.spelled_count dialect found, query.spelled_fromFragments dialect onTable,
      List.cons_append, List.nil_append, command, found, Command.read, Command.selection,
      Command.keyword, Command.identifier, Option.bind_eq_bind, Option.bind_some, if_true, last,
      Option.pure_def, Command.orderClause, Command.limitClause, Command.offsetClause]
  | delete =>
    simp only [query.spelled_delete dialect found, query.spelled_targetFragments dialect onTable,
      List.cons_append, List.nil_append, command, found, Command.read, Option.bind_eq_bind,
      Option.bind_some, last, Option.pure_def]

/-- The statement of a select, count or delete says the command of the query. -/
theorem ofStatement?_eq_command {table : String} (onTable : query.table = some table)
    (kind : query.kind ≠ .insert) :
    Command.ofStatement? (query.toStatement dialect) = some (query.command dialect table) := by
  obtain ⟨tokens, scanned, resolved⟩ :=
    Option.bind_eq_some_iff.1 (query.resolve_scan_toStatement dialect)
  have read := query.read_fragments dialect onTable kind
  rw [spelled] at read
  simp only [Command.ofStatement?, scanned, resolved, read, Option.bind_eq_bind, Option.bind_some,
    List.isEmpty_nil, if_true]

/-- The statement of a select, count or delete reads back as the command of the query, and nowhere in
its text does a parenthesis close right after one that opens. -/
theorem ofStatement?_toStatement {table : String} (onTable : query.table = some table)
    (kind : query.kind ≠ .insert) :
    Command.ofStatement? (query.toStatement dialect) = some (query.command dialect table) ∧
      ∃ tokens, SqlToken.scan (query.toStatement dialect).text.toList = some tokens ∧
        SqlToken.hasEmptyParentheses tokens = false := by
  obtain ⟨tokens, scanned, resolved⟩ :=
    Option.bind_eq_some_iff.1 (query.resolve_scan_toStatement dialect)
  have closed := query.hasEmptyParentheses_fragments dialect kind
  constructor
  · exact query.ofStatement?_eq_command dialect onTable kind
  · exact ⟨tokens, scanned, by rw [← SqlToken.hasEmptyParentheses_of_resolve resolved]; exact closed⟩

/-- Quotes, placeholders, parentheses and keywords in identifiers, groups without a comparison, a
comparison with null and a missing limit do not get in the way. -/
theorem ofStatement?_toStatement_quoted :
    let query : Query :=
      { table := some "a \" ?) OR $1"
        conditions := [(.or, .group [(.and, .group [])]),
          (.or, .group [(.or, .compare "\"" .likeAnyCase (.string "' OR 1=1")),
            (.and, .group []), (.or, .compare "x ) AND (" .less .null)]),
          (.or, .isNull "$1")]
        order := [("b, \"c", .descending)]
        offset := some 7 }
    Command.ofStatement? (query.toStatement .sqlite) =
      some (.select .rows "a \" ?) OR $1"
        [(.and, .group [(.and, .compare "\"" .like (.string "' OR 1=1")),
            (.or, .compare "x ) AND (" .less .null)]),
          (.or, .isNull "$1")]
        [("b, \"c", .descending)] none (some 7)) :=
  (ofStatement?_toStatement _ .sqlite rfl (by decide)).1

end Query

end RecordStore
