import Mathlib.Tactic.FinCases
import RecordStore.Proofs.Sql.BoundValues

/-!
# One statement in two dialects

The dialects differ in three points of a text: how placeholders are written, that one of them has a
match that ignores case, and that the other needs a limit before an offset. `Text.asSqlite` makes these
three edits to a text for PostgreSQL, leaving what stands in quotes alone, and the text for SQLite is
what comes of it (`Query.dialects_agree`).

What a query writes apart from identifiers, values, comparisons and its page is made of a few words
(`Query.words`), so what the edits do to them is checked word by word.
-/

namespace RecordStore

/-! ## Texts -/

namespace Text

/-- Where a reader of a statement stands. -/
inductive Place where
  | plain
  /-- Inside a quoted identifier. A doubled quote ends it and begins it again. -/
  | quoted
  /-- In the number of a placeholder. -/
  | number
  deriving DecidableEq, Repr

/-- The numbers of the placeholders outside of quoted identifiers, as they are written. -/
def placeholders : (quoted : Bool) → List Char → List (List Char)
  | _, [] => []
  | true, '"' :: rest => placeholders false rest
  | true, _ :: rest => placeholders true rest
  | false, '"' :: rest => placeholders true rest
  | false, '$' :: rest => leadingDigits rest :: placeholders false rest
  | false, _ :: rest => placeholders false rest

/-- The text of a statement for PostgreSQL as it is written for SQLite: outside of quoted identifiers
every placeholder becomes a question mark and `ILIKE` becomes `LIKE`, and where the statement has an
offset and no limit of its own one that is no limit goes before `OFFSET`. -/
def asSqlite (unlimited : Bool) : Place → List Char → List Char
  | _, [] => []
  | .quoted, c :: rest => c :: asSqlite unlimited (if c = '"' then .plain else .quoted) rest
  | _, '"' :: rest => '"' :: asSqlite unlimited .quoted rest
  | _, '$' :: rest => '?' :: asSqlite unlimited .number rest
  | _, 'I' :: 'L' :: 'I' :: 'K' :: 'E' :: rest =>
    "LIKE".toList ++ asSqlite unlimited .plain rest
  | _, 'O' :: 'F' :: 'F' :: 'S' :: 'E' :: 'T' :: rest =>
    (if unlimited then "LIMIT -1 ".toList else []) ++ "OFFSET".toList ++ asSqlite unlimited .plain rest
  | .number, c :: rest =>
    if c.isDigit then asSqlite unlimited .number rest else c :: asSqlite unlimited .plain rest
  | .plain, c :: rest => c :: asSqlite unlimited .plain rest

section Edits

variable {unlimited : Bool}

theorem asSqlite_digit {c : Char} (digit : c.isDigit = true) (more : List Char) :
    asSqlite unlimited .plain (c :: more) = c :: asSqlite unlimited .plain more := by
  rw [asSqlite]
  all_goals
    intros
    subst_vars
    cases digit

theorem asSqlite_number_digit {c : Char} (digit : c.isDigit = true) (more : List Char) :
    asSqlite unlimited .number (c :: more) = asSqlite unlimited .number more := by
  rw [asSqlite, if_pos digit]
  all_goals
    intros
    subst_vars
    cases digit

theorem asSqlite_digits {digits : List Char} (all : ∀ c ∈ digits, c.isDigit = true) (more : List Char) :
    asSqlite unlimited .plain (digits ++ more) = digits ++ asSqlite unlimited .plain more := by
  induction digits with
  | nil => rfl
  | cons c rest ih =>
    rw [List.cons_append, asSqlite_digit (all c List.mem_cons_self),
      ih fun d member => all d (List.mem_cons_of_mem _ member)]
    rfl

/-- The number of a placeholder ends at a break. -/
theorem asSqlite_number {digits more : List Char} (all : ∀ c ∈ digits, c.isDigit = true)
    (separated : SqlToken.Separated more) :
    asSqlite unlimited .number (digits ++ more) = asSqlite unlimited .plain more := by
  induction digits with
  | nil =>
    cases more with
    | nil => rfl
    | cons c rest =>
      rcases SqlToken.isBreak_iff.1 (separated c rfl) with rfl | rfl | rfl | rfl | rfl <;> rfl
  | cons c rest ih =>
    rw [List.cons_append, asSqlite_number_digit (all c List.mem_cons_self)]
    exact ih fun d member => all d (List.mem_cons_of_mem _ member)

/-- An identifier in quotes stays as it is. -/
theorem asSqlite_quoteIdentifier (identifier more : List Char) :
    asSqlite unlimited .plain (quoteIdentifier identifier ++ more) =
      quoteIdentifier identifier ++ asSqlite unlimited .plain more := by
  have body : asSqlite unlimited .quoted (doubleQuotes identifier ++ '"' :: more) =
      doubleQuotes identifier ++ '"' :: asSqlite unlimited .plain more := by
    induction identifier with
    | nil => rfl
    | cons c rest ih =>
      by_cases quote : c = '"'
      · subst quote
        simp [doubleQuotes, asSqlite, ih]
      · simp [doubleQuotes, asSqlite, quote, ih]
  have same (more : List Char) : quoteIdentifier identifier ++ more =
      '"' :: (doubleQuotes identifier ++ '"' :: more) := by
    simp [quoteIdentifier]
  rw [same, same, ← body]
  rfl

/-- No placeholder stands in an identifier in quotes. -/
theorem placeholders_quoteIdentifier (identifier more : List Char) :
    placeholders false (quoteIdentifier identifier ++ more) = placeholders false more := by
  have body : placeholders true (doubleQuotes identifier ++ '"' :: more) = placeholders false more := by
    induction identifier with
    | nil => rfl
    | cons c rest ih =>
      by_cases quote : c = '"'
      · subst quote
        simp [doubleQuotes, placeholders, ih]
      · simp [doubleQuotes, placeholders, quote, ih]
  have same : quoteIdentifier identifier ++ more = '"' :: (doubleQuotes identifier ++ '"' :: more) := by
    simp [quoteIdentifier]
  rw [same, ← body]
  rfl

theorem placeholders_digits {digits : List Char} (all : ∀ c ∈ digits, c.isDigit = true)
    (more : List Char) : placeholders false (digits ++ more) = placeholders false more := by
  induction digits with
  | nil => rfl
  | cons c rest ih =>
    have digit := all c List.mem_cons_self
    rw [List.cons_append, placeholders, ih fun d member => all d (List.mem_cons_of_mem _ member)]
    all_goals
      rintro rfl
      cases digit

end Edits

end Text

/-! ## Words -/

/-- The words that a query is made of, its page apart. -/
def Query.words : List String :=
  ["SELECT *", "SELECT COUNT(*) AS ", "INSERT INTO ", "DELETE FROM ", " FROM ", " WHERE ", " IS NULL", "(",
    ")", " AND ", " OR ", " ", ", ", " ORDER BY ", " ASC", " DESC", " (", ") VALUES ", " ON CONFLICT (",
    " DO NOTHING", " DO UPDATE SET ", " = excluded."]

/-- Whether a fragment is no part of a page. -/
def Fragment.isOrdinary : Fragment → Bool
  | .words text => Query.words.contains text
  | .noLimit => false
  | _ => true

/-- Fragments that are no part of a page. -/
def Ordinary (fragments : List Fragment) : Prop := ∀ fragment ∈ fragments, fragment.isOrdinary = true

theorem ordinary_nil : Ordinary [] := fun _ member => absurd member List.not_mem_nil

theorem ordinary_cons {fragment : Fragment} {rest : List Fragment} :
    Ordinary (fragment :: rest) ↔ fragment.isOrdinary = true ∧ Ordinary rest :=
  List.forall_mem_cons

theorem Ordinary.cons {fragment : Fragment} {rest : List Fragment} (tail : Ordinary rest)
    (head : fragment.isOrdinary = true) : Ordinary (fragment :: rest) :=
  ordinary_cons.2 ⟨head, tail⟩

theorem Ordinary.append {front back : List Fragment} (before : Ordinary front)
    (behind : Ordinary back) : Ordinary (front ++ back) :=
  List.forall_mem_append.2 ⟨before, behind⟩

/-- Groups of ordinary fragments with commas between them are ordinary. -/
theorem ordinary_separated {groups : List (List Fragment)}
    (each : ∀ group ∈ groups, Ordinary group) : Ordinary (separated ", " groups) := by
  induction groups with
  | nil => exact ordinary_nil
  | cons first others ih =>
    cases others with
    | nil => exact each first List.mem_cons_self
    | cons second others =>
      have tail := ih fun group member => each group (List.mem_cons_of_mem _ member)
      exact (each first List.mem_cons_self).append (tail.cons rfl)

theorem ordinary_separated_map {α : Type} {items : List α} {group : α → List Fragment}
    (each : ∀ item, Ordinary (group item)) : Ordinary (separated ", " (items.map group)) := by
  refine ordinary_separated fun fragments member => ?_
  obtain ⟨item, -, rfl⟩ := List.mem_map.1 member
  exact each item

theorem isOrdinary_connector (connector : Connector) :
    (Fragment.words connector.text).isOrdinary = true := by
  cases connector <;> rfl

mutual

theorem Predicate.ordinary_fragments (predicate : Predicate) : Ordinary predicate.fragments := by
  cases predicate with
  | compare =>
    exact ((((ordinary_nil.cons rfl).cons rfl).cons rfl).cons rfl).cons rfl
  | isNull => exact (ordinary_nil.cons rfl).cons rfl
  | group conditions =>
    have inner := ordinary_conditionFragments true conditions
    rw [Predicate.fragments]
    exact (inner.cons rfl).append (ordinary_nil.cons rfl)

theorem ordinary_conditionFragments (first : Bool) (conditions : List Condition) :
    Ordinary (conditionFragments first conditions) := by
  cases conditions with
  | nil => exact ordinary_nil
  | cons condition rest =>
    obtain ⟨connector, predicate⟩ := condition
    have here := Predicate.ordinary_fragments predicate
    rw [conditionFragments]
    split
    · exact ordinary_conditionFragments first rest
    · have tail := ordinary_conditionFragments false rest
      cases first with
      | true => exact here.append tail
      | false => exact (here.cons (isOrdinary_connector connector)).append tail

end

/-! ## Queries -/

namespace Query

variable (query : Query)

theorem ordinary_fromFragments : Ordinary query.fromFragments := by
  unfold fromFragments
  split
  · exact (ordinary_nil.cons rfl).cons rfl
  · exact ordinary_nil

theorem ordinary_targetFragments : Ordinary query.targetFragments := by
  unfold targetFragments
  split
  · exact ordinary_nil.cons rfl
  · exact ordinary_nil

theorem ordinary_whereFragments : Ordinary query.whereFragments := by
  unfold whereFragments
  split
  · exact ordinary_nil
  · exact (ordinary_conditionFragments true query.conditions).cons rfl

theorem ordinary_orderFragments : Ordinary query.orderFragments := by
  unfold orderFragments
  split
  · exact ordinary_nil
  · refine Ordinary.cons (ordinary_separated_map fun entry => ?_) rfl
    obtain ⟨column, direction⟩ := entry
    cases direction with
    | ascending => exact (ordinary_nil.cons rfl).cons rfl
    | descending => exact (ordinary_nil.cons rfl).cons rfl

theorem ordinary_rowFragments (row : List StoredValue) : Ordinary (rowFragments row) := by
  have items : Ordinary (separated ", " (row.map fun value => [.value value])) :=
    ordinary_separated_map fun _ => ordinary_nil.cons rfl
  exact (items.cons rfl).append (ordinary_nil.cons rfl)

theorem ordinary_conflictFragments : Ordinary query.conflictFragments := by
  unfold conflictFragments
  split
  · exact ordinary_nil
  · refine Ordinary.append (((ordinary_nil.cons rfl).cons rfl).cons rfl) ?_
    split
    · exact ordinary_nil.cons rfl
    · exact (ordinary_separated_map fun _ => ((ordinary_nil.cons rfl).cons rfl).cons rfl).cons rfl

/-- The fragments of a query are ordinary but for its page, which it has only when it selects. -/
theorem exists_ordinary_front :
    ∃ front, Ordinary front ∧
      query.fragments = front ++ if query.kind = .select then query.pageFragments else [] := by
  have from_ := query.ordinary_fromFragments
  have target := query.ordinary_targetFragments
  have wheres := query.ordinary_whereFragments
  cases kind : query.kind with
  | select =>
    have selected : Ordinary (.words "SELECT *" :: query.fromFragments) := from_.cons rfl
    refine ⟨_, (selected.append wheres).append query.ordinary_orderFragments, ?_⟩
    rw [fragments, kind]
    rfl
  | count =>
    have counted : Ordinary [.words "SELECT COUNT(*) AS ", .name "count"] :=
      (ordinary_nil.cons rfl).cons rfl
    refine ⟨_, (counted.append from_).append wheres, ?_⟩
    rw [fragments, kind]
    exact (List.append_nil _).symm
  | insert =>
    have inserted : Ordinary (.words "INSERT INTO " :: query.targetFragments) := target.cons rfl
    have columns : Ordinary (.words " (" ::
        separated ", " (query.columns.map fun column => [.name column])) :=
      (ordinary_separated_map fun _ => ordinary_nil.cons rfl).cons rfl
    have rows : Ordinary (.words ") VALUES " :: separated ", " (query.rows.map rowFragments)) :=
      (ordinary_separated_map ordinary_rowFragments).cons rfl
    refine ⟨_, ((inserted.append columns).append rows).append query.ordinary_conflictFragments, ?_⟩
    simp only [fragments, kind, List.cons_append, List.append_assoc, reduceCtorEq, if_false,
      List.append_nil]
  | delete =>
    have deleted : Ordinary (.words "DELETE FROM " :: query.targetFragments) := target.cons rfl
    refine ⟨_, deleted.append wheres, ?_⟩
    rw [fragments, kind]
    exact (List.append_nil _).symm

end Query

/-! ## The same statement -/

namespace Fragment

section Edits

variable {unlimited : Bool}

theorem asSqlite_words {text : String} (known : text ∈ Query.words) (more : List Char) :
    Text.asSqlite unlimited .plain (text.toList ++ more) =
      text.toList ++ Text.asSqlite unlimited .plain more := by
  fin_cases known <;> rfl

theorem placeholders_words {text : String} (known : text ∈ Query.words) (more : List Char) :
    Text.placeholders false (text.toList ++ more) = Text.placeholders false more := by
  fin_cases known <;> rfl

/-- The edits take an ordinary fragment from one dialect to the other. -/
theorem asSqlite_text (index : Nat) {fragment : Fragment} {more : List Char}
    (ordinary : fragment.isOrdinary = true) (apart : fragment.opens = true ∨ SqlToken.Separated more) :
    Text.asSqlite unlimited .plain (fragment.text .postgres index ++ more) =
      fragment.text .sqlite index ++ Text.asSqlite unlimited .plain more := by
  cases fragment with
  | words text => exact asSqlite_words (List.contains_iff_mem.1 ordinary) more
  | name identifier => exact Text.asSqlite_quoteIdentifier identifier.toList more
  | comparison kind => cases kind <;> rfl
  | value bound =>
    have separated := apart.resolve_left Bool.false_ne_true
    simp only [text]
    split
    · rfl
    · have digits : ∀ c ∈ Text.digits (index + 1), c.isDigit = true :=
        fun _ => Text.isDigit_of_mem_digits
      exact congrArg (List.cons '?') (Text.asSqlite_number digits separated)
  | noLimit => cases ordinary

/-- The placeholder of a fragment is the one that a reader finds in its text. -/
theorem placeholders_text (index : Nat) {fragment : Fragment} {more : List Char}
    (ordinary : fragment.isOrdinary = true) (apart : fragment.opens = true ∨ SqlToken.Separated more) :
    Text.placeholders false (fragment.text .postgres index ++ more) =
      (if fragment.param?.isSome then [Text.digits (index + 1)] else []) ++
        Text.placeholders false more := by
  cases fragment with
  | words text => exact placeholders_words (List.contains_iff_mem.1 ordinary) more
  | name identifier => exact Text.placeholders_quoteIdentifier identifier.toList more
  | comparison kind => cases kind <;> rfl
  | value bound =>
    have separated := apart.resolve_left Bool.false_ne_true
    have ends : Text.NoDigitNext more := fun c head =>
      (SqlToken.facts_of_isBreak c (separated c head)).1
    cases null : bound.isNull with
    | true => simp only [text, param?, null, if_true]; rfl
    | false =>
      have digits : ∀ c ∈ Text.digits (index + 1), c.isDigit = true :=
        fun _ => Text.isDigit_of_mem_digits
      simp [text, param?, null, Dialect.placeholder, Text.placeholders,
        Text.leadingDigits_digits _ ends, Text.placeholders_digits digits]
  | noLimit => cases ordinary

/-- Behind ordinary fragments the edits go on with what follows. -/
theorem asSqlite_render {front back : List Fragment} (ordinary : Ordinary front)
    (spaced : Spaced (front ++ back))
    (goesOn : ∀ index, Text.asSqlite unlimited .plain (render .postgres index back) =
      render .sqlite index back) (index : Nat) :
    Text.asSqlite unlimited .plain (render .postgres index (front ++ back)) =
      render .sqlite index (front ++ back) := by
  induction front generalizing index with
  | nil => exact goesOn index
  | cons fragment rest ih =>
    -- the break behind a value ends the number of its placeholder
    obtain ⟨here, later⟩ := ordinary_cons.1 ordinary
    rw [List.cons_append] at spaced ⊢
    obtain ⟨-, apart, tail⟩ := spaced
    rw [render, render,
      asSqlite_text index here (apart.imp_right fun separates => separates .postgres _), ih later tail]

/-- The placeholders of ordinary fragments are numbered without gaps. -/
theorem placeholders_render {front back : List Fragment} (ordinary : Ordinary front)
    (spaced : Spaced (front ++ back))
    (goesOn : ∀ index, Text.placeholders false (render .postgres index back) = []) (index : Nat) :
    Text.placeholders false (render .postgres index (front ++ back)) =
      (List.range' (index + 1) (front.filterMap param?).length).map Text.digits := by
  induction front generalizing index with
  | nil => exact goesOn index
  | cons fragment rest ih =>
    obtain ⟨here, later⟩ := ordinary_cons.1 ordinary
    rw [List.cons_append] at spaced ⊢
    obtain ⟨-, apart, tail⟩ := spaced
    rw [render,
      placeholders_text index here (apart.imp_right fun separates => separates .postgres _),
      ih later tail, List.filterMap_cons]
    cases bound : fragment.param? with
    | none => rfl
    | some value => rfl

end Edits

end Fragment

namespace Query

variable (query : Query)

/-- Whether the query needs a limit that is none, as it has an offset. -/
def isUnlimited (query : Query) : Bool :=
  query.kind = .select && query.offset.isSome && query.limit.isNone

theorem text_countFragment (dialect : Dialect) (keyword : String) (count : UInt64) (index : Nat) :
    (countFragment keyword count).text dialect index = keyword.toList ++ Text.digits count.toNat := by
  simp [countFragment, Fragment.text]

/-- A keyword and its number, the keyword being edited. -/
theorem asSqlite_countFragment (unlimited : Bool) (keyword edited : String)
    (word : ∀ more, Text.asSqlite unlimited .plain (keyword.toList ++ more) =
      edited.toList ++ Text.asSqlite unlimited .plain more) (count : UInt64) (index : Nat)
    (more : List Char) :
    Text.asSqlite unlimited .plain ((countFragment keyword count).text .postgres index ++ more) =
      (countFragment edited count).text .sqlite index ++ Text.asSqlite unlimited .plain more := by
  have digits : ∀ c ∈ Text.digits count.toNat, c.isDigit = true := fun _ => Text.isDigit_of_mem_digits
  rw [text_countFragment, text_countFragment, List.append_assoc, List.append_assoc, word,
    Text.asSqlite_digits digits]

theorem placeholders_countFragment (keyword : String)
    (word : ∀ more, Text.placeholders false (keyword.toList ++ more) = Text.placeholders false more)
    (count : UInt64) (index : Nat) (more : List Char) :
    Text.placeholders false ((countFragment keyword count).text .postgres index ++ more) =
      Text.placeholders false more := by
  have digits : ∀ c ∈ Text.digits count.toNat, c.isDigit = true := fun _ => Text.isDigit_of_mem_digits
  rw [text_countFragment, List.append_assoc, word, Text.placeholders_digits digits]

/-- The edits put in the limit that the one dialect leaves out. -/
theorem asSqlite_pageFragments (selects : query.kind = .select) (index : Nat) :
    Text.asSqlite query.isUnlimited .plain (Fragment.render .postgres index query.pageFragments) =
      Fragment.render .sqlite index query.pageFragments := by
  have unlimited : query.isUnlimited = (query.offset.isSome && query.limit.isNone) := by
    simp [isUnlimited, selects]
  have limits := asSqlite_countFragment false " LIMIT " " LIMIT " fun _ => rfl
  rw [unlimited, pageFragments]
  cases limit : query.limit with
  | none =>
    cases offset : query.offset with
    | none => rfl
    | some skipped =>
      have put := asSqlite_countFragment true " OFFSET " " LIMIT -1 OFFSET " (fun _ => rfl) skipped
        index []
      have parts : (countFragment " LIMIT -1 OFFSET " skipped).text .sqlite index =
          " LIMIT -1".toList ++ (countFragment " OFFSET " skipped).text .sqlite index := by
        rw [text_countFragment, text_countFragment]
        rfl
      rw [parts, List.append_assoc] at put
      exact put
  | some taken =>
    cases offset : query.offset with
    | none =>
      rw [Fragment.render, Fragment.render]
      exact limits taken index []
    | some skipped =>
      have kept := asSqlite_countFragment false " OFFSET " " OFFSET " (fun _ => rfl) skipped index []
      rw [Fragment.render, Fragment.render]
      exact (limits taken index _).trans (congrArg _ kept)

theorem placeholders_pageFragments (index : Nat) :
    Text.placeholders false (Fragment.render .postgres index query.pageFragments) = [] := by
  have limit := placeholders_countFragment " LIMIT " fun _ => rfl
  have offset := placeholders_countFragment " OFFSET " fun _ => rfl
  unfold pageFragments
  split
  · rfl
  · rw [Fragment.render, limit]
    rfl
  · rw [Fragment.render, Fragment.render, Fragment.text, Dialect.noLimitText, String.toList_empty,
      List.nil_append, offset]
    rfl
  · rw [Fragment.render, limit, Fragment.render, offset]
    rfl

theorem param?_pageFragments : query.pageFragments.filterMap Fragment.param? = [] := by
  unfold pageFragments
  split <;> rfl

/-- The text for SQLite is the edited text for PostgreSQL. -/
theorem text_toStatement_sqlite :
    (query.toStatement .sqlite).text.toList =
      Text.asSqlite query.isUnlimited .plain (query.toStatement .postgres).text.toList := by
  obtain ⟨front, ordinary, parts⟩ := query.exists_ordinary_front
  have spaced := query.spaced_fragments
  rw [parts] at spaced
  rw [toStatement, toStatement, String.toList_ofList, String.toList_ofList, parts]
  refine (Fragment.asSqlite_render ordinary spaced (fun index => ?_) 0).symm
  split
  · next selects => exact query.asSqlite_pageFragments selects index
  · rfl

/-- The placeholders of the text for PostgreSQL are numbered as the parameters are. -/
theorem placeholders_toStatement :
    Text.placeholders false (query.toStatement .postgres).text.toList =
      (List.range' 1 (query.toStatement .postgres).params.length).map Text.digits := by
  obtain ⟨front, ordinary, parts⟩ := query.exists_ordinary_front
  have spaced := query.spaced_fragments
  have page : (if query.kind = .select then query.pageFragments else []).filterMap Fragment.param? =
      [] := by
    split
    · exact query.param?_pageFragments
    · rfl
  rw [parts] at spaced
  rw [toStatement, String.toList_ofList, parts, List.filterMap_append, page, List.append_nil]
  refine Fragment.placeholders_render ordinary spaced (fun index => ?_) 0
  split
  · exact query.placeholders_pageFragments index
  · rfl

/-- The two dialects write one statement. Their parameters are the same, the values of the query that
are not null from left to right. The text for PostgreSQL has one placeholder for each, `$1`, `$2` and so
on, and the text for SQLite is that text with a question mark for every placeholder, `LIKE` for `ILIKE`
and a limit that is none before the offset of a selection without a limit. -/
theorem dialects_agree :
    (query.toStatement .sqlite).params = (query.toStatement .postgres).params ∧
      (query.toStatement .postgres).params = query.boundValues.filter (!·.isNull) ∧
      .null ∉ (query.toStatement .postgres).params ∧
      Text.placeholders false (query.toStatement .postgres).text.toList =
        (List.range' 1 (query.toStatement .postgres).params.length).map Text.digits ∧
      (query.toStatement .sqlite).text.toList =
        Text.asSqlite (query.kind = .select && query.offset.isSome && query.limit.isNone) .plain
          (query.toStatement .postgres).text.toList := by
  have params := query.params_toStatement .postgres
  have bound : .null ∉ (query.toStatement .postgres).params := by
    rw [params]
    intro member
    have present := (List.mem_filter.1 member).2
    cases present
  exact ⟨query.params_eq .sqlite .postgres, params, bound, query.placeholders_toStatement,
    query.text_toStatement_sqlite⟩

/-- The dialects do not differ in the names of a query, whatever these look like. -/
example :
    let query := ((Query.empty.onTable "a$1?").addCondition .and
      (.compare "ILIKE" .likeAnyCase (.string "%"))).skipping 5
    query.toStatement .postgres =
        ⟨"SELECT * FROM \"a$1?\" WHERE \"ILIKE\" ILIKE $1 OFFSET 5", [.string "%"]⟩ ∧
      query.toStatement .sqlite =
        ⟨"SELECT * FROM \"a$1?\" WHERE \"ILIKE\" LIKE ? LIMIT -1 OFFSET 5", [.string "%"]⟩ := ⟨rfl, rfl⟩

end Query

end RecordStore
