import RecordStore.Proofs.Sql.Conditions

/-!
# Bound values

The values of a query reach its statement as parameters only: the parameters are the bound values that
are not null, in the order of the text (`Query.params_toStatement`). Laying out a query and replacing
its values commute (`Query.fragments_mapValues`), so a replacement that keeps null apart from all else
leaves the text as it is and replaces the parameters (`Query.toStatement_mapValues`).

Two queries that differ in nothing but their values, null standing in the same places, are the same once
the values are erased (`Query.erased`). Such queries have the same text (`Query.text_eq_of_erased`) and
their parameters are the values of the same places (`Query.zip_params_of_erased`).
-/

namespace RecordStore

/-! ## The values of a query -/

/-- The value that a predicate compares its column with. -/
def Predicate.bound? : Predicate → Option StoredValue
  | .compare _ _ value => some value
  | _ => none

/-- The value that a fragment writes, as a parameter or as the word for null. -/
def Fragment.value? : Fragment → Option StoredValue
  | .value bound => some bound
  | _ => none

/-- The values that a query of its kind writes, from left to right: those that its conditions compare
with, or those that it inserts, row by row. -/
def Query.boundValues (query : Query) : List StoredValue :=
  match query.kind with
  | .insert => query.rows.flatten
  | _ => (Predicate.allComparisons query.conditions).filterMap Predicate.bound?

theorem Fragment.param?_eq (fragment : Fragment) :
    fragment.param? = fragment.value?.filter (!·.isNull) := by
  cases fragment with
  | value bound =>
    rw [param?, value?, Option.filter_some]
    cases bound.isNull <;> rfl
  | _ => rfl

/-- Separators write no values. -/
theorem filterMap_value?_separated (separator : String) (groups : List (List Fragment)) :
    (separated separator groups).filterMap Fragment.value? =
      groups.flatMap (List.filterMap Fragment.value?) := by
  induction groups with
  | nil => rfl
  | cons first others ih =>
    cases others with
    | nil => simp [separated]
    | cons second others =>
      rw [separated, List.filterMap_append, List.filterMap_cons, ih, List.flatMap_cons]
      · rfl
      · exact List.cons_ne_nil second others

/-- A list of groups of names and words writes no values. -/
theorem filterMap_value?_separated_of_valueless (separator : String) {groups : List (List Fragment)}
    (valueless : ∀ group ∈ groups, group.filterMap Fragment.value? = []) :
    (separated separator groups).filterMap Fragment.value? = [] := by
  rw [filterMap_value?_separated, List.flatMap_eq_nil_iff]
  exact valueless

mutual

theorem Predicate.filterMap_value?_fragments (predicate : Predicate) :
    predicate.fragments.filterMap Fragment.value? =
      predicate.comparisons.filterMap Predicate.bound? := by
  cases predicate with
  | compare => rfl
  | isNull => rfl
  | group conditions =>
    rw [Predicate.fragments, Predicate.comparisons, List.filterMap_append, List.filterMap_cons,
      filterMap_value?_conditionFragments true conditions]
    exact List.append_nil _

/-- The conditions that are not written have no comparison. -/
theorem filterMap_value?_conditionFragments (first : Bool) (conditions : List Condition) :
    (conditionFragments first conditions).filterMap Fragment.value? =
      (Predicate.allComparisons conditions).filterMap Predicate.bound? := by
  cases conditions with
  | nil => rfl
  | cons condition rest =>
    obtain ⟨connector, predicate⟩ := condition
    rw [conditionFragments, Predicate.allComparisons, List.filterMap_append]
    split
    · next empty =>
      rw [Predicate.isEmpty_eq, List.isEmpty_iff] at empty
      rw [empty, filterMap_value?_conditionFragments first rest]
      rfl
    · rw [List.filterMap_append, List.filterMap_append, Predicate.filterMap_value?_fragments predicate,
        filterMap_value?_conditionFragments false rest]
      cases first <;> rfl

end

namespace Query

variable (query : Query)

theorem filterMap_value?_fromFragments : query.fromFragments.filterMap Fragment.value? = [] := by
  unfold fromFragments
  split <;> rfl

theorem filterMap_value?_targetFragments : query.targetFragments.filterMap Fragment.value? = [] := by
  unfold targetFragments
  split <;> rfl

theorem filterMap_value?_whereFragments :
    query.whereFragments.filterMap Fragment.value? =
      (Predicate.allComparisons query.conditions).filterMap Predicate.bound? := by
  unfold whereFragments
  split
  · next empty =>
    rw [Predicate.allEmpty_eq, List.isEmpty_iff] at empty
    rw [empty]
    rfl
  · exact filterMap_value?_conditionFragments true query.conditions

theorem filterMap_value?_orderFragments : query.orderFragments.filterMap Fragment.value? = [] := by
  unfold orderFragments
  split
  · rfl
  · refine filterMap_value?_separated_of_valueless ", " fun group member => ?_
    obtain ⟨entry, -, rfl⟩ := List.mem_map.1 member
    rfl

theorem filterMap_value?_pageFragments : query.pageFragments.filterMap Fragment.value? = [] := by
  unfold pageFragments
  split <;> rfl

theorem filterMap_value?_columnFragments (columns : List String) :
    (separated ", " (columns.map fun column => [.name column])).filterMap Fragment.value? = [] := by
  refine filterMap_value?_separated_of_valueless ", " fun group member => ?_
  obtain ⟨column, -, rfl⟩ := List.mem_map.1 member
  rfl

theorem filterMap_value?_rowFragments (row : List StoredValue) :
    (rowFragments row).filterMap Fragment.value? = row := by
  rw [rowFragments, List.filterMap_append, List.filterMap_cons, filterMap_value?_separated,
    List.flatMap_map]
  simp [Fragment.value?]

theorem filterMap_value?_conflictFragments :
    query.conflictFragments.filterMap Fragment.value? = [] := by
  unfold conflictFragments
  split
  · rfl
  · split
    · rfl
    · refine filterMap_value?_separated_of_valueless ", " fun group member => ?_
      obtain ⟨column, -, rfl⟩ := List.mem_map.1 member
      rfl

/-- The fragments of a query write its values from left to right. -/
theorem filterMap_value?_fragments :
    query.fragments.filterMap Fragment.value? = query.boundValues := by
  have wheres := query.filterMap_value?_whereFragments
  have rows : (separated ", " (query.rows.map rowFragments)).filterMap Fragment.value? =
      query.rows.flatten := by
    rw [filterMap_value?_separated, List.flatMap_map]
    simp only [filterMap_value?_rowFragments, List.flatMap_id']
  cases kind : query.kind with
  | select =>
    simp only [fragments, boundValues, kind, List.cons_append, List.filterMap_cons, Fragment.value?,
      List.filterMap_append, filterMap_value?_fromFragments, wheres, filterMap_value?_orderFragments,
      filterMap_value?_pageFragments, List.append_nil, List.nil_append]
  | count =>
    simp only [fragments, boundValues, kind, List.cons_append, List.filterMap_cons, Fragment.value?,
      List.filterMap_append, filterMap_value?_fromFragments, wheres, List.nil_append]
  | insert =>
    simp only [fragments, boundValues, kind, List.cons_append, List.filterMap_cons, Fragment.value?,
      List.filterMap_append, filterMap_value?_targetFragments, filterMap_value?_columnFragments, rows,
      filterMap_value?_conflictFragments, List.append_nil, List.nil_append]
  | delete =>
    simp only [fragments, boundValues, kind, List.cons_append, List.filterMap_cons, Fragment.value?,
      List.filterMap_append, filterMap_value?_targetFragments, wheres, List.nil_append]

/-- The parameters of a statement are the values of its query that are not null, from left to right. -/
theorem params_toStatement (dialect : Dialect) :
    (query.toStatement dialect).params = query.boundValues.filter (!·.isNull) := by
  rw [← filterMap_value?_fragments, List.filter_filterMap, toStatement]
  exact congrArg (query.fragments.filterMap ·) (funext Fragment.param?_eq)

end Query

/-! ## Replacing values -/

section Replacing

variable (replace : StoredValue → StoredValue)

namespace Predicate

mutual

/-- The predicate with every value it compares with replaced. -/
def mapValues : Predicate → Predicate
  | .compare column comparison value => .compare column comparison (replace value)
  | .isNull column => .isNull column
  | .group conditions => .group (mapAllValues conditions)

/-- The conditions with every value they compare with replaced. -/
def mapAllValues : List (Connector × Predicate) → List (Connector × Predicate)
  | [] => []
  | (connector, predicate) :: rest => (connector, mapValues predicate) :: mapAllValues rest

end

theorem mapAllValues_append (front back : List Condition) :
    mapAllValues replace (front ++ back) = mapAllValues replace front ++ mapAllValues replace back := by
  induction front with
  | nil => rfl
  | cons condition rest ih => exact congrArg (List.cons _) ih

mutual

/-- Whether a predicate is empty does not depend on values. -/
theorem isEmpty_mapValues (predicate : Predicate) :
    (predicate.mapValues replace).isEmpty = predicate.isEmpty := by
  cases predicate with
  | compare => rfl
  | isNull => rfl
  | group conditions => exact allEmpty_mapAllValues conditions

theorem allEmpty_mapAllValues (conditions : List Condition) :
    allEmpty (mapAllValues replace conditions) = allEmpty conditions := by
  cases conditions with
  | nil => rfl
  | cons condition rest =>
    rw [mapAllValues, allEmpty, allEmpty, isEmpty_mapValues condition.2, allEmpty_mapAllValues rest]

end

end Predicate

/-- The query with every value that it compares with or inserts replaced. -/
def Query.mapValues (query : Query) : Query :=
  { query with
    conditions := Predicate.mapAllValues replace query.conditions
    rows := query.rows.map (List.map replace) }

/-- The fragment with the value that it writes replaced. -/
def Fragment.mapValue : Fragment → Fragment
  | .value bound => .value (replace bound)
  | fragment => fragment

/-! ### Laying out a query whose values are replaced -/

/-- Fragments without values stay as they are. -/
theorem map_mapValue_of_valueless {fragments : List Fragment}
    (valueless : fragments.filterMap Fragment.value? = []) :
    fragments.map (Fragment.mapValue replace) = fragments := by
  refine (List.map_congr_left fun fragment member => ?_).trans (List.map_id' fragments)
  have none := List.filterMap_eq_nil_iff.1 valueless fragment member
  cases fragment with
  | value bound => cases none
  | _ => rfl

theorem map_mapValue_separated (separator : String) (groups : List (List Fragment)) :
    (separated separator groups).map (Fragment.mapValue replace) =
      separated separator (groups.map (List.map (Fragment.mapValue replace))) := by
  induction groups with
  | nil => rfl
  | cons first others ih =>
    cases others with
    | nil => rfl
    | cons second others =>
      rw [separated, List.map_append, List.map_cons, ih]
      · rfl
      · exact List.cons_ne_nil second others

mutual

theorem Predicate.fragments_mapValues (predicate : Predicate) :
    (predicate.mapValues replace).fragments =
      predicate.fragments.map (Fragment.mapValue replace) := by
  cases predicate with
  | compare => rfl
  | isNull => rfl
  | group conditions =>
    rw [Predicate.mapValues, Predicate.fragments, conditionFragments_mapAllValues true conditions,
      Predicate.fragments, List.map_append]
    rfl

theorem conditionFragments_mapAllValues (first : Bool) (conditions : List Condition) :
    conditionFragments first (Predicate.mapAllValues replace conditions) =
      (conditionFragments first conditions).map (Fragment.mapValue replace) := by
  cases conditions with
  | nil => rfl
  | cons condition rest =>
    obtain ⟨connector, predicate⟩ := condition
    rw [Predicate.mapAllValues, conditionFragments, conditionFragments,
      Predicate.isEmpty_mapValues replace predicate]
    split
    · exact conditionFragments_mapAllValues first rest
    · rw [List.map_append, List.map_append, Predicate.fragments_mapValues predicate,
        conditionFragments_mapAllValues false rest]
      cases first <;> rfl

end

namespace Query

variable (query : Query)

theorem whereFragments_mapValues :
    (query.mapValues replace).whereFragments =
      query.whereFragments.map (Fragment.mapValue replace) := by
  unfold whereFragments
  rw [mapValues, Predicate.allEmpty_mapAllValues replace query.conditions]
  split
  · rfl
  · rw [conditionFragments_mapAllValues replace true query.conditions, List.map_cons]
    rfl

theorem rowFragments_map (row : List StoredValue) :
    rowFragments (row.map replace) = (rowFragments row).map (Fragment.mapValue replace) := by
  rw [rowFragments, rowFragments, List.map_append, List.map_cons, map_mapValue_separated,
    List.map_map, List.map_map]
  rfl

/-- Replacing the values of a query replaces those of its fragments and nothing else. -/
theorem fragments_mapValues :
    (query.mapValues replace).fragments = query.fragments.map (Fragment.mapValue replace) := by
  have wheres := query.whereFragments_mapValues replace
  have rows : separated ", " ((query.mapValues replace).rows.map rowFragments) =
      (separated ", " (query.rows.map rowFragments)).map (Fragment.mapValue replace) := by
    rw [map_mapValue_separated, List.map_map, mapValues, List.map_map]
    exact congrArg _ (List.map_congr_left fun row _ => rowFragments_map replace row)
  have from_ := map_mapValue_of_valueless replace query.filterMap_value?_fromFragments
  have target := map_mapValue_of_valueless replace query.filterMap_value?_targetFragments
  have order := map_mapValue_of_valueless replace query.filterMap_value?_orderFragments
  have page := map_mapValue_of_valueless replace query.filterMap_value?_pageFragments
  have columns := map_mapValue_of_valueless replace (filterMap_value?_columnFragments query.columns)
  have conflict := map_mapValue_of_valueless replace query.filterMap_value?_conflictFragments
  have sameKind : (query.mapValues replace).kind = query.kind := rfl
  cases kind : query.kind with
  | select =>
    simp only [fragments, sameKind, kind, wheres, List.map_append, List.map_cons, from_, order, page]
    rfl
  | count =>
    simp only [fragments, sameKind, kind, wheres, List.map_append, from_]
    rfl
  | insert =>
    simp only [fragments, sameKind, kind, rows, List.map_append, List.map_cons, target, columns, conflict]
    rfl
  | delete =>
    simp only [fragments, sameKind, kind, wheres, List.map_append, List.map_cons, target]
    rfl

theorem boundValues_mapValues :
    (query.mapValues replace).boundValues = query.boundValues.map replace := by
  have values : (fun fragment => (Fragment.mapValue replace fragment).value?) =
      fun fragment => fragment.value?.map replace := by
    funext fragment
    cases fragment <;> rfl
  rw [← filterMap_value?_fragments, ← filterMap_value?_fragments, fragments_mapValues,
    List.filterMap_map, Function.comp_def, values, List.map_filterMap]

end Query

end Replacing

/-! ### Statements -/

section Statements

variable {replace : StoredValue → StoredValue}
  (keepsNull : ∀ value, (replace value).isNull = value.isNull)

include keepsNull

namespace Fragment

theorem param?_mapValue (fragment : Fragment) :
    (fragment.mapValue replace).param? = fragment.param?.map replace := by
  cases fragment with
  | value bound =>
    rw [mapValue, param?, param?, keepsNull]
    split <;> rfl
  | _ => rfl

/-- The text of a fragment does not tell which value it binds. -/
theorem text_mapValue (dialect : Dialect) (index : Nat) (fragment : Fragment) :
    (fragment.mapValue replace).text dialect index = fragment.text dialect index := by
  cases fragment with
  | value bound => rw [mapValue, text, text, keepsNull]
  | _ => rfl

theorem render_mapValue (dialect : Dialect) (index : Nat) (fragments : List Fragment) :
    render dialect index (fragments.map (mapValue replace)) = render dialect index fragments := by
  induction fragments generalizing index with
  | nil => rfl
  | cons fragment rest ih =>
    rw [List.map_cons, render, render, text_mapValue keepsNull, param?_mapValue keepsNull,
      Option.isSome_map, ih]

end Fragment

/-- The text of a statement does not tell which values are bound, and its parameters are those values
one by one. -/
theorem Query.toStatement_mapValues (query : Query) (dialect : Dialect) :
    (query.mapValues replace).toStatement dialect =
      ⟨(query.toStatement dialect).text, (query.toStatement dialect).params.map replace⟩ := by
  have params : (fun fragment => (Fragment.mapValue replace fragment).param?) =
      fun fragment => fragment.param?.map replace := funext (Fragment.param?_mapValue keepsNull)
  rw [toStatement, fragments_mapValues, Fragment.render_mapValue keepsNull, List.filterMap_map,
    Function.comp_def, params, ← List.map_filterMap]
  rfl

end Statements

/-! ## Queries that differ in values -/

namespace StoredValue

/-- What is left of a value that is erased: whether it is null. -/
def erased : StoredValue → StoredValue
  | null => null
  | _ => bool true

theorem isNull_erased (value : StoredValue) : value.erased.isNull = value.isNull := by
  cases value <;> rfl

theorem erased_eq_iff {left right : StoredValue} :
    left.erased = right.erased ↔ left.isNull = right.isNull := by
  cases left <;> cases right <;> simp [erased, isNull]

/-- Of two lists with null in the same places, the values that are not null stand in the same places. -/
theorem zip_filter_of_erased {left right : List StoredValue}
    (same : left.map erased = right.map erased) :
    (left.filter (!·.isNull)).zip (right.filter (!·.isNull)) =
      (left.zip right).filter (!·.1.isNull) := by
  induction left generalizing right with
  | nil => rfl
  | cons first rest ih =>
    cases right with
    | nil => cases same
    | cons second others =>
      rw [List.map_cons, List.map_cons, List.cons.injEq, erased_eq_iff] at same
      have tail := ih same.2
      cases null : first.isNull with
      | true => simpa [List.filter_cons, null, ← same.1] using tail
      | false => simpa [List.filter_cons, null, ← same.1] using tail

end StoredValue

namespace Query

/-- The query without its values, of which no more is left than where null stands. -/
def erased (query : Query) : Query := query.mapValues StoredValue.erased

theorem text_erased (query : Query) (dialect : Dialect) :
    (query.erased.toStatement dialect).text = (query.toStatement dialect).text := by
  rw [erased, toStatement_mapValues StoredValue.isNull_erased]

variable {query other : Query} (same : query.erased = other.erased)

include same

/-- Queries that differ in values only have one text. -/
theorem text_eq_of_erased (dialect : Dialect) :
    (query.toStatement dialect).text = (other.toStatement dialect).text := by
  rw [← text_erased query, same, text_erased other]

theorem length_params_of_erased (dialect : Dialect) :
    (query.toStatement dialect).params.length = (other.toStatement dialect).params.length := by
  have length (query : Query) :
      (query.erased.toStatement dialect).params.length = (query.toStatement dialect).params.length := by
    rw [erased, toStatement_mapValues StoredValue.isNull_erased, List.length_map]
  rw [← length query, same, length other]

/-- Queries that differ in values only have null in the same places. -/
theorem map_erased_boundValues :
    query.boundValues.map StoredValue.erased = other.boundValues.map StoredValue.erased := by
  rw [← boundValues_mapValues, ← boundValues_mapValues]
  exact congrArg boundValues same

/-- The parameters of queries that differ in values only are the values of the same places. -/
theorem zip_params_of_erased (dialect : Dialect) :
    (query.toStatement dialect).params.zip (other.toStatement dialect).params =
      (query.boundValues.zip other.boundValues).filter (!·.1.isNull) := by
  rw [params_toStatement, params_toStatement]
  exact StoredValue.zip_filter_of_erased (map_erased_boundValues same)

end Query

end RecordStore
