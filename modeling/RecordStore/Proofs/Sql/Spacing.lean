import RecordStore.Proofs.Sql.Fragments

/-!
# Breaks in statements

The fragments of every query are spaced, whatever identifiers, values and conditions it has
(`Query.spaced_fragments`), so its statement says what they say (`Query.resolve_scan_toStatement`). Each
clause is put in front of a rest that is spaced and begins with a break.
-/

namespace RecordStore

namespace Fragment

open SqlToken (scan isBreak)

/-! ## Putting fragments in front -/

/-- Fragments that may follow any others. -/
structure Continues (rest : List Fragment) : Prop where
  spaced : Spaced rest
  separates : Separates rest

theorem continues_nil : Continues [] :=
  ⟨trivial, fun _ _ => SqlToken.separated_nil⟩

theorem separates_words {text : String} {c : Char} {tail : List Char}
    (starts : text.toList = c :: tail) (break_ : isBreak c = true) (rest : List Fragment) :
    Separates (.words text :: rest) := by
  intro dialect index
  rw [render, Fragment.text, starts, List.cons_append]
  exact SqlToken.separated_cons break_

/-- Words that end in a break go before anything. -/
theorem spaced_words_of_opens {text : String} {rest : List Fragment}
    (cut : (Fragment.words text).isCut = true) (opens : (Fragment.words text).opens = true)
    (spaced : Spaced rest) : Spaced (.words text :: rest) :=
  ⟨cut, .inl opens, spaced⟩

theorem spaced_words {text : String} {rest : List Fragment}
    (cut : (Fragment.words text).isCut = true) (continues : Continues rest) :
    Spaced (.words text :: rest) :=
  ⟨cut, .inr continues.separates, continues.spaced⟩

/-- Words that begin and end with a break go between anything. -/
theorem continues_words_of_opens {text : String} {c : Char} {tail : List Char} {rest : List Fragment}
    (cut : (Fragment.words text).isCut = true) (opens : (Fragment.words text).opens = true)
    (starts : text.toList = c :: tail) (break_ : isBreak c = true) (spaced : Spaced rest) :
    Continues (.words text :: rest) :=
  ⟨spaced_words_of_opens cut opens spaced, separates_words starts break_ rest⟩

theorem continues_words {text : String} {c : Char} {tail : List Char} {rest : List Fragment}
    (cut : (Fragment.words text).isCut = true) (starts : text.toList = c :: tail)
    (break_ : isBreak c = true) (continues : Continues rest) : Continues (.words text :: rest) :=
  ⟨spaced_words cut continues, separates_words starts break_ rest⟩

theorem spaced_name {identifier : String} {rest : List Fragment} (continues : Continues rest) :
    Spaced (.name identifier :: rest) :=
  ⟨rfl, .inr continues.separates, continues.spaced⟩

theorem spaced_comparison {kind : Comparison} {rest : List Fragment} (continues : Continues rest) :
    Spaced (.comparison kind :: rest) :=
  ⟨rfl, .inr continues.separates, continues.spaced⟩

theorem spaced_value {bound : StoredValue} {rest : List Fragment} (continues : Continues rest) :
    Spaced (.value bound :: rest) :=
  ⟨rfl, .inr continues.separates, continues.spaced⟩

theorem continues_noLimit {rest : List Fragment} (continues : Continues rest) :
    Continues (.noLimit :: rest) := by
  refine ⟨⟨rfl, .inr continues.separates, continues.spaced⟩, fun dialect index => ?_⟩
  have begins : SqlToken.Separated dialect.noLimitText.toList := by
    cases dialect <;> simp [SqlToken.Separated, Dialect.noLimitText, isBreak]
  exact begins.append (continues.separates dialect _)

/-- Groups of fragments with commas between them are spaced when each is, whatever may follow it. -/
theorem spaced_separated {groups : List (List Fragment)}
    (each : ∀ group ∈ groups, ∀ rest, Continues rest → Spaced (group ++ rest))
    {rest : List Fragment} (continues : Continues rest) :
    Spaced (separated ", " groups ++ rest) := by
  induction groups with
  | nil => exact continues.spaced
  | cons first others ih =>
    cases others with
    | nil => exact each first List.mem_cons_self rest continues
    | cons second others =>
      have tail := ih fun group member => each group (List.mem_cons_of_mem _ member)
      have following : Continues (.words ", " :: (separated ", " (second :: others) ++ rest)) :=
        continues_words_of_opens rfl rfl rfl rfl tail
      have whole := each first List.mem_cons_self _ following
      simpa only [separated, List.append_assoc, List.cons_append] using whole

/-! ## Numbers -/

/-- A keyword with a number after it is cut into the two. -/
theorem scan_countFragment {keyword : String} (text : List Char) (tokens : List SqlToken)
    (ends : keyword.toList = text ++ [' ']) (scanned : scan text = some tokens) (count : UInt64) :
    scan (keyword ++ String.ofList (Text.digits count.toNat)).toList =
      some (tokens ++ [.number count.toNat]) := by
  have whole : (keyword ++ String.ofList (Text.digits count.toNat)).toList =
      text ++ ' ' :: Text.digits count.toNat := by
    simp [ends]
  rw [whole, SqlToken.scan_append (SqlToken.separated_cons rfl) scanned, SqlToken.scan_blank,
    SqlToken.scan_digits]
  rfl

theorem scan_limit (count : UInt64) :
    scan (" LIMIT " ++ String.ofList (Text.digits count.toNat)).toList =
      some [.word "LIMIT", .number count.toNat] :=
  scan_countFragment " LIMIT".toList [.word "LIMIT"] rfl rfl count

theorem scan_offset (count : UInt64) :
    scan (" OFFSET " ++ String.ofList (Text.digits count.toNat)).toList =
      some [.word "OFFSET", .number count.toNat] :=
  scan_countFragment " OFFSET".toList [.word "OFFSET"] rfl rfl count

theorem continues_countFragment {keyword : String} {c : Char} (text : List Char)
    (tokens : List SqlToken) (ends : keyword.toList = c :: text ++ [' '])
    (break_ : isBreak c = true) (scanned : scan (c :: text) = some tokens)
    (plain : tokens.all isPlain = true) (count : UInt64) {rest : List Fragment}
    (continues : Continues rest) : Continues (Query.countFragment keyword count :: rest) := by
  have found := scan_countFragment _ tokens ends scanned count
  have closed : (Query.countFragment keyword count).opens = false := by
    obtain ⟨front, last, digits⟩ :=
      (List.eq_nil_or_concat (Text.digits count.toNat)).resolve_left (Text.digits_ne_nil _)
    have digit : last.isDigit = true :=
      Text.isDigit_of_mem_digits (n := count.toNat) (by simp [digits])
    have noBreak : isBreak last = false := by
      cases broken : isBreak last with
      | false => rfl
      | true =>
        rw [(SqlToken.facts_of_isBreak last broken).1] at digit
        cases digit
    simp [Query.countFragment, opens, digits, noBreak]
  have cut : (Query.countFragment keyword count).isCut = true := by
    rw [Query.countFragment] at closed ⊢
    simp only [isCut, closed, found, Option.any_some, List.all_append, plain]
    rfl
  have starts : (keyword ++ String.ofList (Text.digits count.toNat)).toList =
      c :: (text ++ ' ' :: Text.digits count.toNat) := by
    simp [ends]
  exact ⟨⟨cut, .inr continues.separates, continues.spaced⟩, separates_words starts break_ rest⟩

end Fragment

open Fragment

/-! ## Conditions -/

theorem continues_connector (connector : Connector) {rest : List Fragment} (spaced : Spaced rest) :
    Continues (.words connector.text :: rest) := by
  cases connector with
  | and => exact continues_words_of_opens rfl rfl rfl rfl spaced
  | or => exact continues_words_of_opens rfl rfl rfl rfl spaced

theorem continues_closing {rest : List Fragment} (continues : Continues rest) :
    Continues (.words ")" :: rest) :=
  continues_words rfl rfl rfl continues

mutual

theorem Predicate.spaced_fragments (predicate : Predicate) {rest : List Fragment}
    (continues : Continues rest) : Spaced (predicate.fragments ++ rest) := by
  cases predicate with
  | compare column kind value =>
    have afterKind : Continues (.words " " :: .value value :: rest) :=
      continues_words_of_opens rfl rfl rfl rfl (spaced_value continues)
    exact spaced_name (continues_words_of_opens rfl rfl rfl rfl (spaced_comparison afterKind))
  | isNull column =>
    exact spaced_name (continues_words rfl rfl rfl continues)
  | group conditions =>
    have inner := spaced_conditionFragments true conditions (continues_closing continues)
    rw [Predicate.fragments, List.append_assoc]
    exact spaced_words_of_opens rfl rfl inner

theorem spaced_conditionFragments (first : Bool) (conditions : List Condition)
    {rest : List Fragment} (continues : Continues rest) :
    Spaced (conditionFragments first conditions ++ rest) := by
  cases conditions with
  | nil => exact continues.spaced
  | cons condition others =>
    obtain ⟨connector, predicate⟩ := condition
    by_cases empty : predicate.isEmpty = true
    · rw [conditionFragments, if_pos empty]
      exact spaced_conditionFragments first others continues
    · have whole := Predicate.spaced_fragments predicate
        (continues_conditionFragments others continues)
      rw [conditionFragments, if_neg empty, List.append_assoc, List.append_assoc]
      cases first with
      | true => exact whole
      | false => exact (continues_connector connector whole).spaced

theorem continues_conditionFragments (conditions : List Condition) {rest : List Fragment}
    (continues : Continues rest) : Continues (conditionFragments false conditions ++ rest) := by
  cases conditions with
  | nil => exact continues
  | cons condition others =>
    obtain ⟨connector, predicate⟩ := condition
    by_cases empty : predicate.isEmpty = true
    · rw [conditionFragments, if_pos empty]
      exact continues_conditionFragments others continues
    · have whole := Predicate.spaced_fragments predicate
        (continues_conditionFragments others continues)
      rw [conditionFragments, if_neg empty, List.append_assoc, List.append_assoc]
      exact continues_connector connector whole

end

/-! ## Queries -/

namespace Query

variable (query : Query)

theorem continues_pageFragments : Continues query.pageFragments := by
  have limit (count : UInt64) {rest : List Fragment} (continues : Continues rest) :
      Continues (countFragment " LIMIT " count :: rest) :=
    continues_countFragment "LIMIT".toList [.word "LIMIT"] rfl rfl rfl rfl count continues
  have offset (count : UInt64) : Continues [countFragment " OFFSET " count] :=
    continues_countFragment "OFFSET".toList [.word "OFFSET"] rfl rfl rfl rfl count continues_nil
  unfold pageFragments
  split
  · exact continues_nil
  · exact limit _ continues_nil
  · exact continues_noLimit (offset _)
  · exact limit _ (offset _)

theorem continues_orderFragments {rest : List Fragment} (continues : Continues rest) :
    Continues (query.orderFragments ++ rest) := by
  unfold orderFragments
  split
  · exact continues
  · have items : Spaced (separated ", "
        (query.order.map fun entry => [.name entry.1, .words entry.2.text]) ++ rest) := by
      refine spaced_separated ?_ continues
      intro group member rest continues
      obtain ⟨⟨column, direction⟩, -, rfl⟩ := List.mem_map.1 member
      cases direction with
      | ascending =>
        have text : Continues (.words " ASC" :: rest) :=
          continues_words rfl rfl rfl continues
        exact spaced_name text
      | descending =>
        have text : Continues (.words " DESC" :: rest) :=
          continues_words rfl rfl rfl continues
        exact spaced_name text
    exact continues_words_of_opens rfl rfl rfl rfl items

theorem continues_whereFragments {rest : List Fragment} (continues : Continues rest) :
    Continues (query.whereFragments ++ rest) := by
  unfold whereFragments
  split
  · exact continues
  · exact continues_words_of_opens rfl rfl rfl rfl (spaced_conditionFragments true _ continues)

theorem continues_fromFragments {rest : List Fragment} (continues : Continues rest) :
    Continues (query.fromFragments ++ rest) := by
  unfold fromFragments
  split
  · exact continues_words_of_opens rfl rfl rfl rfl (spaced_name continues)
  · exact continues

theorem spaced_targetFragments {rest : List Fragment} (continues : Continues rest) :
    Spaced (query.targetFragments ++ rest) := by
  unfold targetFragments
  split
  · exact spaced_name continues
  · exact continues.spaced

theorem spaced_rowFragments (row : List StoredValue) {rest : List Fragment}
    (continues : Continues rest) : Spaced (rowFragments row ++ rest) := by
  have items : Spaced (separated ", " (row.map fun value => [.value value]) ++ .words ")" :: rest) := by
    refine spaced_separated ?_ (continues_closing continues)
    intro group member rest continues
    obtain ⟨bound, -, rfl⟩ := List.mem_map.1 member
    exact spaced_value continues
  have opening : Spaced (.words "(" :: (separated ", " (row.map fun value => [.value value]) ++
      .words ")" :: rest)) := spaced_words_of_opens rfl rfl items
  simpa [rowFragments] using opening

theorem continues_conflictFragments : Continues query.conflictFragments := by
  unfold conflictFragments
  split
  · exact continues_nil
  next key _ =>
    have clause {rest : List Fragment} (continues : Continues rest) :
        Continues (.words " ON CONFLICT (" :: .name key :: .words ")" :: rest) :=
      continues_words_of_opens rfl rfl rfl rfl (spaced_name (continues_closing continues))
    split
    · exact clause (continues_words rfl rfl rfl continues_nil)
    next =>
      have items : Spaced (separated ", " ((query.mergedColumns key).map fun column =>
          [.name column, .words " = excluded.", .name column]) ++ []) := by
        refine spaced_separated ?_ continues_nil
        intro group member rest continues
        obtain ⟨column, -, rfl⟩ := List.mem_map.1 member
        exact spaced_name (continues_words_of_opens rfl rfl rfl rfl (spaced_name continues))
      rw [List.append_nil] at items
      exact clause (continues_words_of_opens rfl rfl rfl rfl items)

/-- The fragments of every query are spaced. -/
theorem spaced_fragments : Spaced query.fragments := by
  unfold fragments
  split
  · have clauses := query.continues_fromFragments (query.continues_whereFragments
      (query.continues_orderFragments query.continues_pageFragments))
    have selected : Spaced (.words "SELECT *" :: (query.fromFragments ++ (query.whereFragments ++
        (query.orderFragments ++ query.pageFragments)))) := spaced_words rfl clauses
    simpa only [List.cons_append, List.append_assoc] using selected
  · have clauses := query.continues_fromFragments (query.continues_whereFragments continues_nil)
    have counted : Spaced ([.words "SELECT COUNT(*) AS ", .name "count"] ++
        (query.fromFragments ++ (query.whereFragments ++ []))) :=
      spaced_words_of_opens rfl rfl (spaced_name clauses)
    simpa only [List.append_assoc, List.append_nil] using counted
  · have rows : Spaced (separated ", " (query.rows.map rowFragments) ++ query.conflictFragments) := by
      refine spaced_separated ?_ query.continues_conflictFragments
      intro group member rest continues
      obtain ⟨row, -, rfl⟩ := List.mem_map.1 member
      exact spaced_rowFragments row continues
    have columns : Spaced (separated ", " (query.columns.map fun column => [.name column]) ++
        .words ") VALUES " :: (separated ", " (query.rows.map rowFragments) ++
          query.conflictFragments)) := by
      refine spaced_separated ?_ (continues_words_of_opens rfl rfl rfl rfl rows)
      intro group member rest continues
      obtain ⟨column, -, rfl⟩ := List.mem_map.1 member
      exact spaced_name continues
    have values : Continues (.words " (" ::
        (separated ", " (query.columns.map fun column => [.name column]) ++
          .words ") VALUES " :: (separated ", " (query.rows.map rowFragments) ++
            query.conflictFragments))) :=
      continues_words_of_opens rfl rfl rfl rfl columns
    have inserting : Spaced (.words "INSERT INTO " :: (query.targetFragments ++ _)) :=
      spaced_words_of_opens rfl rfl (query.spaced_targetFragments values)
    simpa only [List.cons_append, List.append_assoc] using inserting
  · have clauses := query.spaced_targetFragments (query.continues_whereFragments continues_nil)
    have deleting : Spaced (.words "DELETE FROM " ::
        (query.targetFragments ++ (query.whereFragments ++ []))) :=
      spaced_words_of_opens rfl rfl clauses
    simpa only [List.cons_append, List.append_nil] using deleting

/-- What the statement of a query says: the tokens of its fragments, with the parameters in their
places. -/
theorem resolve_scan_toStatement (dialect : Dialect) :
    (SqlToken.scan (query.toStatement dialect).text.toList).bind
        (SqlToken.resolve (query.toStatement dialect).params 0) =
      some (query.fragments.flatMap (Fragment.tokens dialect .value)) := by
  simpa only [toStatement, String.toList_ofList] using
    resolve_scan_render dialect query.spaced_fragments

end Query

end RecordStore
