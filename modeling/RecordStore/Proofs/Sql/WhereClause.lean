import RecordStore.Proofs.Sql.Reading

/-!
# The word before the conditions

The text of a select has the word WHERE exactly if one of its conditions is written
(`Query.exists_scan_where_iff`): identifiers are in quotes, values are placeholders, and no other clause
has that word.
-/

namespace RecordStore

open SqlToken (scan)

section

variable (dialect : Dialect)

namespace Fragment

/-- A placeholder is no word, and neither is the parameter in its place. -/
theorem mem_word_tokens {written : StoredValue → SqlToken}
    (noWord : ∀ value text, written value ≠ .word text) (keyword : String) (fragment : Fragment) :
    .word keyword ∈ fragment.tokens dialect written ↔ .word keyword ∈ fragment.tokens dialect .value := by
  cases fragment with
  | value bound =>
    rw [tokens, tokens]
    split
    · exact Iff.rfl
    · simp [(noWord bound keyword).symm]
  | _ => exact Iff.rfl

/-- The words of a text are those of its fragments. -/
theorem mem_word_scanned (keyword : String) (index : Nat) (fragments : List Fragment) :
    .word keyword ∈ scanned dialect index fragments ↔ .word keyword ∈ spelled dialect fragments := by
  induction fragments generalizing index with
  | nil => exact Iff.rfl
  | cons fragment rest ih =>
    have noWord (value : StoredValue) (text : String) : dialect.placeholderToken index ≠ .word text := by
      cases dialect <;> nofun
    rw [scanned, spelled_cons, List.mem_append, List.mem_append, ih, mem_word_tokens dialect noWord]

end Fragment

/-- Items with commas between them have the words of the items only. -/
theorem word_notMem_intercalate {α : Type} {keyword : String} {spelling : α → List SqlToken}
    (each : ∀ item, .word keyword ∉ spelling item) (items : List α) :
    .word keyword ∉ [SqlToken.symbol ","].intercalate (items.map spelling) := by
  induction items with
  | nil => exact List.not_mem_nil
  | cons first others ih =>
    cases others with
    | nil => simpa only [List.map_cons, List.map_nil, List.intercalate_singleton] using each first
    | cons second others =>
      rw [List.map_cons, List.map_cons, Command.intercalate_cons_cons, List.mem_append,
        List.mem_append, List.mem_singleton]
      rintro (here | comma | later)
      · exact each first here
      · cases comma
      · exact ih later

theorem word_notMem_separated {α : Type} {keyword : String} {group : α → List Fragment}
    (each : ∀ item, .word keyword ∉ spelled dialect (group item)) (items : List α) :
    .word keyword ∉ spelled dialect (separated ", " (items.map group)) := by
  rw [spelled_separated, List.map_map]
  exact word_notMem_intercalate each items

namespace Query

variable (query : Query)

theorem where_notMem_fromFragments : .word "WHERE" ∉ spelled dialect query.fromFragments := by
  unfold fromFragments
  split
  · rw [spelled_words dialect " FROM " [.word "FROM"] rfl, spelled_name]
    simp [spelled]
  · exact List.not_mem_nil

theorem where_notMem_orderFragments : .word "WHERE" ∉ spelled dialect query.orderFragments := by
  unfold orderFragments
  split
  · exact List.not_mem_nil
  · have entry (item : String × Direction) :
        .word "WHERE" ∉ spelled dialect [.name item.1, .words item.2.text] := by
      obtain ⟨column, direction⟩ := item
      cases direction with
      | ascending =>
        rw [spelled_name, Direction.text, spelled_words dialect " ASC" [.word "ASC"] rfl]
        simp [spelled]
      | descending =>
        rw [spelled_name, Direction.text, spelled_words dialect " DESC" [.word "DESC"] rfl]
        simp [spelled]
    have entries := word_notMem_separated dialect entry query.order
    rw [spelled_words dialect " ORDER BY " [.word "ORDER", .word "BY"] rfl]
    simpa using entries

theorem where_notMem_pageFragments : .word "WHERE" ∉ spelled dialect query.pageFragments := by
  unfold pageFragments
  split
  · exact List.not_mem_nil
  · rw [spelled_limit]
    simp [spelled]
  · rw [spelled_cons, spelled_offset]
    cases dialect with
    | postgres => simp [spelled, Fragment.tokens, Dialect.noLimitText, SqlToken.scan_nil]
    | sqlite =>
      have noLimit : Fragment.noLimit.tokens .sqlite .value =
          [.word "LIMIT", .symbol "-", .number 1] := rfl
      simp [spelled, noLimit]
  · rw [spelled_limit, spelled_offset]
    simp [spelled]

theorem where_mem_whereFragments_iff :
    .word "WHERE" ∈ spelled dialect query.whereFragments ↔
      Predicate.allEmpty query.conditions = false := by
  unfold whereFragments
  cases Predicate.allEmpty query.conditions with
  | true => exact iff_of_false List.not_mem_nil Bool.noConfusion
  | false =>
    rw [if_neg Bool.false_ne_true, spelled_words dialect " WHERE " [.word "WHERE"] rfl]
    exact iff_of_true List.mem_cons_self rfl

/-- The text of a select has the word WHERE exactly if one of its conditions has a comparison. -/
theorem exists_scan_where_iff (kind : query.kind = .select) :
    ∃ tokens, scan (query.toStatement dialect).text.toList = some tokens ∧
      (.word "WHERE" ∈ tokens ↔ Predicate.allEmpty query.conditions = false) := by
  refine ⟨Fragment.scanned dialect 0 query.fragments, ?_, ?_⟩
  · rw [toStatement, String.toList_ofList, Fragment.scan_render dialect query.spaced_fragments]
  · rw [Fragment.mem_word_scanned, query.spelled_select dialect kind,
      ← query.where_mem_whereFragments_iff dialect]
    simp [query.where_notMem_fromFragments dialect, query.where_notMem_orderFragments dialect,
      query.where_notMem_pageFragments dialect]

end Query

end

end RecordStore
