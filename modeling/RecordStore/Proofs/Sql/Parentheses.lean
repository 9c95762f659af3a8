import RecordStore.Proofs.Sql.Conditions

/-!
# Parentheses in statements

Conditions without a comparison are left out at every depth, so the parentheses of a group always hold
something (`Query.hasEmptyParentheses_fragments`).
-/

namespace RecordStore

namespace SqlToken

/-- Whether a token is a certain symbol. -/
def isSymbol (text : String) : SqlToken → Bool
  | symbol found => found == text
  | _ => false

/-- Whether a closing parenthesis comes right after an opening one. -/
def hasEmptyParentheses : List SqlToken → Bool
  | [] => false
  | token :: rest =>
    (token.isSymbol "(" && rest.head?.any (isSymbol ")")) || hasEmptyParentheses rest

theorem hasEmptyParentheses_append {front : List SqlToken}
    (noOpening : ∀ token ∈ front, token.isSymbol "(" = false) (rest : List SqlToken) :
    hasEmptyParentheses (front ++ rest) = hasEmptyParentheses rest := by
  induction front with
  | nil => rfl
  | cons token front ih =>
    rw [List.cons_append, hasEmptyParentheses, noOpening token List.mem_cons_self, Bool.false_and,
      Bool.false_or, ih fun other member => noOpening other (List.mem_cons_of_mem _ member)]

/-- A token is replaced by one that is the same symbol, if any. -/
theorem exists_of_resolve_cons {params : List StoredValue} {index : Nat} {token : SqlToken}
    {rest resolved : List SqlToken} (found : resolve params index (token :: rest) = some resolved) :
    ∃ written next after, resolved = written :: after ∧ resolve params next rest = some after ∧
      ∀ text, written.isSymbol text = token.isSymbol text := by
  cases token with
  | nextParam =>
    simp only [resolve, Option.bind_eq_bind, Option.bind_eq_some_iff] at found
    obtain ⟨bound, -, after, read, same⟩ := found
    cases same
    exact ⟨_, _, _, rfl, read, fun _ => rfl⟩
  | param number =>
    rw [resolve] at found
    split at found
    · cases found
    · simp only [Option.bind_eq_bind, Option.bind_eq_some_iff] at found
      obtain ⟨bound, -, after, read, same⟩ := found
      cases same
      exact ⟨_, _, _, rfl, read, fun _ => rfl⟩
  | _ =>
    simp only [resolve, Option.bind_eq_bind, Option.bind_eq_some_iff] at found
    obtain ⟨after, read, same⟩ := found
    cases same
    exact ⟨_, _, _, rfl, read, fun _ => rfl⟩

/-- Parameters in their places neither add parentheses nor take any away. -/
theorem hasEmptyParentheses_of_resolve {params : List StoredValue} {index : Nat}
    {tokens resolved : List SqlToken} (found : resolve params index tokens = some resolved) :
    hasEmptyParentheses resolved = hasEmptyParentheses tokens := by
  suffices both : hasEmptyParentheses resolved = hasEmptyParentheses tokens ∧
      resolved.head?.any (isSymbol ")") = tokens.head?.any (isSymbol ")") from both.1
  induction tokens generalizing index resolved with
  | nil =>
    cases found
    exact ⟨rfl, rfl⟩
  | cons token rest ih =>
    obtain ⟨written, next, after, rfl, read, shape⟩ := exists_of_resolve_cons found
    obtain ⟨same, head⟩ := ih read
    refine ⟨?_, shape ")"⟩
    rw [hasEmptyParentheses, hasEmptyParentheses, shape, same, head]

end SqlToken

open SqlToken (isSymbol hasEmptyParentheses)

/-! ## Fragments -/

section

variable (dialect : Dialect)

/-- Whether the tokens of a fragment open no parenthesis. -/
def Fragment.opensNothing (fragment : Fragment) : Bool :=
  (fragment.tokens dialect .value).all fun token => !token.isSymbol "("

theorem Fragment.opensNothing_words (text : String) {tokens : List SqlToken}
    (scanned : SqlToken.scan text.toList = some tokens)
    (plain : (tokens.all fun token => !token.isSymbol "(") = true) :
    (Fragment.words text).opensNothing dialect = true := by
  rw [opensNothing, Fragment.tokens, scanned]
  exact plain

theorem Fragment.opensNothing_comparison (kind : Comparison) :
    (Fragment.comparison kind).opensNothing dialect = true := by
  cases dialect <;> cases kind <;> rfl

theorem Fragment.opensNothing_value (bound : StoredValue) :
    (Fragment.value bound).opensNothing dialect = true := by
  cases bound <;> rfl

theorem Fragment.opensNothing_noLimit : Fragment.noLimit.opensNothing dialect = true := by
  cases dialect <;> rfl

theorem hasEmptyParentheses_spelled {fragments : List Fragment}
    (noOpening : fragments.all (Fragment.opensNothing dialect) = true) (rest : List SqlToken) :
    hasEmptyParentheses (spelled dialect fragments ++ rest) = hasEmptyParentheses rest := by
  refine SqlToken.hasEmptyParentheses_append (fun token member => ?_) rest
  obtain ⟨fragment, among, within⟩ := List.mem_flatMap.1 member
  have opens := List.all_eq_true.1 noOpening fragment among
  simpa using List.all_eq_true.1 opens token within

/-! ## Conditions -/

/-- Written conditions do not begin with a closing parenthesis. -/
theorem head_spelled_conditions {conditions : List Condition}
    (written : Predicate.allEmpty conditions = false) (rest : List SqlToken) :
    (spelled dialect (conditionFragments true conditions) ++ rest).head?.any (isSymbol ")") =
      false := by
  induction conditions with
  | nil => cases written
  | cons condition others ih =>
    obtain ⟨connector, predicate⟩ := condition
    cases empty : predicate.isEmpty with
    | true =>
      rw [Predicate.allEmpty, empty, Bool.true_and] at written
      rw [conditionFragments, if_pos empty]
      exact ih written
    | false =>
      rw [spelled_condition dialect empty, if_pos rfl, List.nil_append]
      cases predicate with
      | compare => rfl
      | isNull => rfl
      | group =>
        rw [spelled_group]
        rfl

mutual

theorem hasEmptyParentheses_predicate {predicate : Predicate} (written : predicate.isEmpty = false)
    {rest : List SqlToken} (closed : hasEmptyParentheses rest = false) :
    hasEmptyParentheses (spelled dialect predicate.fragments ++ rest) = false := by
  cases predicate with
  | compare column kind value =>
    rw [hasEmptyParentheses_spelled, closed]
    simp only [Predicate.fragments, List.all_cons, Fragment.opensNothing_comparison,
      Fragment.opensNothing_value]
    rfl
  | isNull column =>
    rw [hasEmptyParentheses_spelled, closed]
    rfl
  | group conditions =>
    have inner := hasEmptyParentheses_conditions true conditions
      (show hasEmptyParentheses (.symbol ")" :: rest) = false from closed)
    have head := head_spelled_conditions dialect written (.symbol ")" :: rest)
    rw [spelled_group, List.cons_append, List.append_assoc, List.singleton_append,
      hasEmptyParentheses, head, inner, Bool.and_false, Bool.false_or]

theorem hasEmptyParentheses_conditions (first : Bool) (conditions : List Condition)
    {rest : List SqlToken} (closed : hasEmptyParentheses rest = false) :
    hasEmptyParentheses (spelled dialect (conditionFragments first conditions) ++ rest) = false := by
  cases conditions with
  | nil => exact closed
  | cons condition others =>
    obtain ⟨connector, predicate⟩ := condition
    have tail := hasEmptyParentheses_conditions false others closed
    cases empty : predicate.isEmpty with
    | true =>
      rw [conditionFragments, if_pos empty]
      exact hasEmptyParentheses_conditions first others closed
    | false =>
      have whole := hasEmptyParentheses_predicate empty tail
      rw [spelled_condition dialect empty, List.append_assoc, List.append_assoc]
      cases first with
      | true => exact whole
      | false => exact whole

end

/-! ## Queries -/

theorem opensNothing_separated {groups : List (List Fragment)}
    (each : ∀ group ∈ groups, group.all (Fragment.opensNothing dialect) = true) :
    (separated ", " groups).all (Fragment.opensNothing dialect) = true := by
  induction groups with
  | nil => rfl
  | cons first others ih =>
    have here := each first List.mem_cons_self
    have tail := ih fun group member => each group (List.mem_cons_of_mem _ member)
    cases others with
    | nil => exact here
    | cons second others =>
      have comma : (Fragment.words ", ").opensNothing dialect = true := rfl
      rw [separated, List.all_append, List.all_cons, here, comma, tail, Bool.true_and, Bool.true_and]
      exact List.cons_ne_nil _ _

namespace Query

variable (query : Query)

theorem opensNothing_orderFragments :
    query.orderFragments.all (Fragment.opensNothing dialect) = true := by
  unfold orderFragments
  split
  · rfl
  · refine opensNothing_separated dialect fun group member => ?_
    obtain ⟨⟨column, direction⟩, -, rfl⟩ := List.mem_map.1 member
    have word : (Fragment.words direction.text).opensNothing dialect = true := by
      cases direction with
      | ascending => exact Fragment.opensNothing_words dialect " ASC" rfl rfl
      | descending => exact Fragment.opensNothing_words dialect " DESC" rfl rfl
    rw [List.all_cons, List.all_cons, word]
    rfl

theorem opensNothing_pageFragments :
    query.pageFragments.all (Fragment.opensNothing dialect) = true := by
  have limit (count : UInt64) : (countFragment " LIMIT " count).opensNothing dialect = true :=
    Fragment.opensNothing_words dialect _ (Fragment.scan_limit count) rfl
  have offset (count : UInt64) : (countFragment " OFFSET " count).opensNothing dialect = true :=
    Fragment.opensNothing_words dialect _ (Fragment.scan_offset count) rfl
  unfold pageFragments
  split <;> simp [limit, offset, Fragment.opensNothing_noLimit]

theorem hasEmptyParentheses_where (rest : List SqlToken) (closed : hasEmptyParentheses rest = false) :
    hasEmptyParentheses (spelled dialect query.whereFragments ++ rest) = false := by
  unfold whereFragments
  split
  · exact closed
  · rw [spelled_words dialect " WHERE " [.word "WHERE"] rfl]
    exact hasEmptyParentheses_conditions dialect true query.conditions closed

/-- No query that selects, counts or deletes has parentheses around nothing. -/
theorem hasEmptyParentheses_fragments (kind : query.kind ≠ .insert) :
    hasEmptyParentheses (spelled dialect query.fragments) = false := by
  have page := hasEmptyParentheses_spelled dialect (query.opensNothing_pageFragments dialect) []
  have paged : hasEmptyParentheses (spelled dialect query.orderFragments ++
      spelled dialect query.pageFragments) = false := by
    rw [hasEmptyParentheses_spelled dialect (query.opensNothing_orderFragments dialect)]
    rwa [List.append_nil] at page
  have last := query.hasEmptyParentheses_where dialect [] rfl
  rw [List.append_nil] at last
  have table : query.fromFragments.all (Fragment.opensNothing dialect) = true := by
    unfold fromFragments
    split <;> rfl
  have target : query.targetFragments.all (Fragment.opensNothing dialect) = true := by
    unfold targetFragments
    split <;> rfl
  cases found : query.kind with
  | select =>
    have closed := query.hasEmptyParentheses_where dialect _ paged
    rw [← hasEmptyParentheses_spelled dialect table] at closed
    rw [query.spelled_select dialect found]
    exact closed
  | count =>
    rw [← hasEmptyParentheses_spelled dialect table] at last
    rw [query.spelled_count dialect found]
    exact last
  | insert => exact absurd found kind
  | delete =>
    rw [← hasEmptyParentheses_spelled dialect target] at last
    rw [query.spelled_delete dialect found]
    exact last

end Query

end

end RecordStore
