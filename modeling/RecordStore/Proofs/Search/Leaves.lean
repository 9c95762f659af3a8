import RecordStore.Proofs.Search.Derivation
import RecordStore.Proofs.Search.Texts
import RecordStore.Proofs.Sql.WhereClause

/-!
# The leaves of a search

Compiling takes leaves through groups with parentheses and groups without, but it neither drops nor
repeats one of them, and it keeps their order: the comparisons of the compiled conditions are the
predicates of the leaves from left to right (`Token.allComparisons_sequenceConditions`). In an accepted
search every group has a leaf, so there are no empty parentheses among the conditions, and the statement
has conditions exactly if the search has leaves (`Search.compile_keeps_leaves`).
-/

namespace RecordStore

/-! ## Groups of conditions -/

namespace Predicate

mutual

/-- The conditions of every group in a predicate, at any depth. -/
def groups : Predicate → List (List Condition)
  | .compare .. => []
  | .isNull _ => []
  | .group conditions => conditions :: allGroups conditions

/-- The conditions of every group among conditions, at any depth. -/
def allGroups : List (Connector × Predicate) → List (List Condition)
  | [] => []
  | (_, predicate) :: rest => predicate.groups ++ allGroups rest

end

/-- Conditions among which, at any depth, there is no group without a comparison. -/
def GroupsFilled (conditions : List Condition) : Prop :=
  ∀ inner ∈ allGroups conditions, (Predicate.group inner).isEmpty = false

theorem allComparisons_append (front back : List Condition) :
    allComparisons (front ++ back) = allComparisons front ++ allComparisons back := by
  induction front with
  | nil => rfl
  | cons condition rest ih =>
    rw [List.cons_append, allComparisons, allComparisons, ih, List.append_assoc]

theorem allGroups_append (front back : List Condition) :
    allGroups (front ++ back) = allGroups front ++ allGroups back := by
  induction front with
  | nil => rfl
  | cons condition rest ih => rw [List.cons_append, allGroups, allGroups, ih, List.append_assoc]

theorem groupsFilled_nil : GroupsFilled [] := nofun

theorem GroupsFilled.append {front back : List Condition} (first : GroupsFilled front)
    (second : GroupsFilled back) : GroupsFilled (front ++ back) := by
  intro inner member
  rw [allGroups_append, List.mem_append] at member
  exact member.elim (first inner) (second inner)

/-- A group that has a comparison may stand before conditions. -/
theorem GroupsFilled.cons_group {conditions rest : List Condition} (connector : Connector)
    (nonempty : allComparisons conditions ≠ []) (inside : GroupsFilled conditions)
    (after : GroupsFilled rest) : GroupsFilled ((connector, .group conditions) :: rest) := by
  intro inner member
  rw [allGroups, groups, List.cons_append, List.mem_cons, List.mem_append] at member
  rcases member with rfl | within | later
  · rwa [isEmpty_eq, comparisons, List.isEmpty_eq_false_iff]
  · exact inside inner within
  · exact after inner later

/-- A predicate that compares one column. -/
structure IsComparison (predicate : Predicate) : Prop where
  comparisons : predicate.comparisons = [predicate]
  groups : predicate.groups = []

theorem GroupsFilled.single_comparison {connector : Connector} {predicate : Predicate}
    (compares : predicate.IsComparison) : GroupsFilled [(connector, predicate)] := by
  intro inner member
  rw [allGroups, compares.groups] at member
  cases member

theorem isComparison_compare (column : String) (comparison : Comparison) (value : StoredValue) :
    (compare column comparison value).IsComparison := ⟨rfl, rfl⟩

theorem isComparison_equality (column : String) (value : StoredValue) :
    (equality column value).IsComparison := by
  rw [equality]
  split <;> exact ⟨rfl, rfl⟩

end Predicate

/-! ## Leaves -/

namespace Leaf

theorem isComparison_comparing (leaf : Leaf) (value : StoredValue) :
    (leaf.comparing value).IsComparison := by
  cases leaf with
  | property key _ options =>
    rw [comparing]
    split
    · exact Predicate.isComparison_compare ..
    · split
      · exact Predicate.isComparison_equality key value
      · exact Predicate.isComparison_compare ..
  | datesBefore => exact Predicate.isComparison_compare ..
  | datesAfter => exact Predicate.isComparison_compare ..

theorem bound?_comparing (leaf : Leaf) (value : StoredValue) :
    (leaf.comparing value).bound?.filter (!·.isNull) = (some value).filter (!·.isNull) := by
  cases leaf with
  | property key _ options =>
    rw [comparing]
    split
    · rfl
    · split
      · rw [Predicate.equality]
        cases null : value.isNull with
        | true => simp [Predicate.bound?, Option.filter_some, null]
        | false => rfl
      · rfl
  | datesBefore => rfl
  | datesAfter => rfl

variable (registry : CodecRegistry) (definition : ModelDefinition)

/-- The predicate of a leaf compares one column. -/
theorem isComparison_predicate (leaf : Leaf) : (leaf.predicate registry definition).IsComparison := by
  rw [predicate_eq_comparing]
  exact leaf.isComparison_comparing _

/-- What the predicates of leaves compare with, null apart, are the values of the leaves. -/
theorem filter_bound?_predicate (leaves : List Leaf) :
    ((leaves.map (Leaf.predicate registry definition)).filterMap Predicate.bound?).filter (!·.isNull) =
      (leaves.map (Leaf.encodedValue registry definition)).filter (!·.isNull) := by
  have value (leaf : Leaf) : (leaf.predicate registry definition).bound?.filter (!·.isNull) =
      (some (leaf.encodedValue registry definition)).filter (!·.isNull) := by
    rw [predicate_eq_comparing]
    exact leaf.bound?_comparing _
  rw [List.filterMap_map, List.filter_filterMap, ← List.filterMap_eq_map, List.filter_filterMap]
  exact congrArg (List.filterMap · leaves) (funext value)

end Leaf

namespace Token

mutual

/-- The leaves of a token at any depth, from left to right. -/
def leaves : Token → List Leaf
  | .leaf value => [value]
  | .and => []
  | .or => []
  | .group tokens => allLeaves tokens

/-- The leaves of tokens at any depth, from left to right. -/
def allLeaves : List Token → List Leaf
  | [] => []
  | token :: rest => token.leaves ++ allLeaves rest

end

/-- Every value that can be derived has a leaf. -/
theorem IsValue.leaves_ne_nil {token : Token} (value : IsValue token) : token.leaves ≠ [] := by
  cases value with
  | leaf => exact List.cons_ne_nil _ _
  | group inner =>
    cases inner with
    | mk first _ => exact List.append_ne_nil_of_left_ne_nil first.leaves_ne_nil _

/-! ## Compiled conditions -/

/-- A link has no conditions, and decides how the next value is joined. -/
theorem exists_linkedConditions_link (predicate : Leaf → Predicate) (pending : Connector) {link : Token}
    (isLink : link.isLink = true) (rest : List Token) :
    ∃ next, linkedConditions predicate pending (link :: rest) = linkedConditions predicate next rest ∧
      link.leaves = [] := by
  cases link with
  | and => exact ⟨.and, rfl, rfl⟩
  | or => exact ⟨.or, rfl, rfl⟩
  | leaf => cases isLink
  | group => cases isLink

section Compiled

variable {predicate : Leaf → Predicate}

mutual

/-- The comparisons of compiled conditions are those of the leaves, in the same order. -/
theorem allComparisons_conditions (compares : ∀ leaf, (predicate leaf).IsComparison) (token : Token) :
    Predicate.allComparisons (conditions predicate token) = token.leaves.map predicate := by
  cases token with
  | and => rfl
  | or => rfl
  | leaf value =>
    rw [conditions, Predicate.allComparisons, (compares value).comparisons]
    rfl
  | group tokens =>
    rw [conditions, leaves]
    split
    · rw [Predicate.allComparisons, Predicate.comparisons,
        allComparisons_linkedConditions compares .and tokens]
      exact List.append_nil _
    · exact allComparisons_plainConditions compares tokens

theorem allComparisons_isolatedConditions (compares : ∀ leaf, (predicate leaf).IsComparison)
    (token : Token) :
    Predicate.allComparisons (isolatedConditions predicate token) = token.leaves.map predicate := by
  cases token with
  | and => rfl
  | or => rfl
  | leaf value =>
    rw [isolatedConditions, Predicate.allComparisons, (compares value).comparisons]
    rfl
  | group tokens =>
    rw [isolatedConditions, leaves]
    split
    · exact allComparisons_linkedConditions compares .and tokens
    · exact allComparisons_plainConditions compares tokens

theorem allComparisons_plainConditions (compares : ∀ leaf, (predicate leaf).IsComparison)
    (tokens : List Token) :
    Predicate.allComparisons (plainConditions predicate tokens) = (allLeaves tokens).map predicate := by
  cases tokens with
  | nil => rfl
  | cons token rest =>
    rw [plainConditions, Predicate.allComparisons_append, allComparisons_conditions compares token,
      allComparisons_plainConditions compares rest, allLeaves, List.map_append]

theorem allComparisons_linkedConditions (compares : ∀ leaf, (predicate leaf).IsComparison)
    (pending : Connector) (tokens : List Token) :
    Predicate.allComparisons (linkedConditions predicate pending tokens) =
      (allLeaves tokens).map predicate := by
  cases tokens with
  | nil => rfl
  | cons token rest =>
    rw [allLeaves, List.map_append]
    cases link : token.isLink with
    | true =>
      obtain ⟨next, same, none⟩ := exists_linkedConditions_link predicate pending link rest
      rw [same, none, allComparisons_linkedConditions compares next rest]
      rfl
    | false =>
      rw [linkedConditions_value predicate pending link, Predicate.allComparisons, Predicate.comparisons,
        allComparisons_isolatedConditions compares token,
        allComparisons_linkedConditions compares .and rest]

end

theorem allComparisons_sequenceConditions (compares : ∀ leaf, (predicate leaf).IsComparison)
    (tokens : List Token) :
    Predicate.allComparisons (sequenceConditions predicate tokens) =
      (allLeaves tokens).map predicate := by
  rw [sequenceConditions]
  split
  · exact allComparisons_linkedConditions compares .and tokens
  · exact allComparisons_plainConditions compares tokens

mutual

/-- The groups of compiled conditions are those of values, and a value has a leaf. -/
theorem groupsFilled_conditions (compares : ∀ leaf, (predicate leaf).IsComparison) {token : Token}
    (accepted : token.check = .ok ()) : Predicate.GroupsFilled (conditions predicate token) := by
  cases token with
  | and => exact Predicate.groupsFilled_nil
  | or => exact Predicate.groupsFilled_nil
  | leaf value => exact .single_comparison (compares value)
  | group tokens =>
    obtain ⟨-, -, members⟩ := check_group_eq_ok_iff.1 accepted
    have filled := (isValue_of_check accepted rfl).leaves_ne_nil
    rw [conditions]
    split
    · refine .cons_group .and ?_ (groupsFilled_linkedConditions compares .and members)
        Predicate.groupsFilled_nil
      rwa [allComparisons_linkedConditions compares, Ne, List.map_eq_nil_iff]
    · exact groupsFilled_plainConditions compares members

theorem groupsFilled_isolatedConditions (compares : ∀ leaf, (predicate leaf).IsComparison)
    {token : Token} (accepted : token.check = .ok ()) :
    Predicate.GroupsFilled (isolatedConditions predicate token) := by
  cases token with
  | and => exact Predicate.groupsFilled_nil
  | or => exact Predicate.groupsFilled_nil
  | leaf value => exact .single_comparison (compares value)
  | group tokens =>
    obtain ⟨-, -, members⟩ := check_group_eq_ok_iff.1 accepted
    rw [isolatedConditions]
    split
    · exact groupsFilled_linkedConditions compares .and members
    · exact groupsFilled_plainConditions compares members

theorem groupsFilled_plainConditions (compares : ∀ leaf, (predicate leaf).IsComparison)
    {tokens : List Token} (accepted : checkAll tokens = .ok ()) :
    Predicate.GroupsFilled (plainConditions predicate tokens) := by
  cases tokens with
  | nil => exact Predicate.groupsFilled_nil
  | cons token rest =>
    obtain ⟨first, others⟩ := checkAll_cons_eq_ok_iff.1 accepted
    exact (groupsFilled_conditions compares first).append (groupsFilled_plainConditions compares others)

theorem groupsFilled_linkedConditions (compares : ∀ leaf, (predicate leaf).IsComparison)
    (pending : Connector) {tokens : List Token} (accepted : checkAll tokens = .ok ()) :
    Predicate.GroupsFilled (linkedConditions predicate pending tokens) := by
  cases tokens with
  | nil => exact Predicate.groupsFilled_nil
  | cons token rest =>
    obtain ⟨first, others⟩ := checkAll_cons_eq_ok_iff.1 accepted
    cases link : token.isLink with
    | true =>
      obtain ⟨next, same, -⟩ := exists_linkedConditions_link predicate pending link rest
      rw [same]
      exact groupsFilled_linkedConditions compares next others
    | false =>
      -- what stands in parentheses is a value, so it has a leaf to compare
      have filled := (isValue_of_check first link).leaves_ne_nil
      rw [linkedConditions_value predicate pending link]
      refine .cons_group pending ?_ (groupsFilled_isolatedConditions compares first)
        (groupsFilled_linkedConditions compares .and others)
      rwa [allComparisons_isolatedConditions compares, Ne, List.map_eq_nil_iff]

end

theorem groupsFilled_sequenceConditions (compares : ∀ leaf, (predicate leaf).IsComparison)
    {tokens : List Token} (accepted : checkAll tokens = .ok ()) :
    Predicate.GroupsFilled (sequenceConditions predicate tokens) := by
  rw [sequenceConditions]
  split
  · exact groupsFilled_linkedConditions compares .and accepted
  · exact groupsFilled_plainConditions compares accepted

end Compiled

end Token

/-! ## Searches -/

namespace Search

/-- Compiling an accepted search keeps its leaves: the comparisons of the conditions are their predicates
from left to right, no group among the conditions is without a comparison, the parameters are the values
of the leaves that are not null, and the text has conditions if there is a leaf. -/
theorem compile_keeps_leaves (registry : CodecRegistry) (definition : ModelDefinition) (table : String)
    {search : Search} (accepted : search.check = .ok ()) :
    ∃ query, search.compile registry definition table = .ok query ∧
      Predicate.allComparisons query.conditions =
        (Token.allLeaves search.tokens).map (Leaf.predicate registry definition) ∧
      (∀ inner ∈ Predicate.allGroups query.conditions, (Predicate.group inner).isEmpty = false) ∧
      ∀ dialect,
        (query.toStatement dialect).params =
          ((Token.allLeaves search.tokens).map (Leaf.encodedValue registry definition)).filter
            (!·.isNull) ∧
        ∃ tokens, SqlToken.scan (query.toStatement dialect).text.toList = some tokens ∧
          (.word "WHERE" ∈ tokens ↔ Token.allLeaves search.tokens ≠ []) := by
  obtain ⟨-, members⟩ := of_check accepted
  have compares := Leaf.isComparison_predicate registry definition
  have comparisons : Predicate.allComparisons (search.query registry definition table).conditions =
      (Token.allLeaves search.tokens).map (Leaf.predicate registry definition) :=
    Token.allComparisons_sequenceConditions compares search.tokens
  refine ⟨_, compile_of_check registry definition table accepted, comparisons,
    Token.groupsFilled_sequenceConditions compares members, fun dialect => ⟨?_, ?_⟩⟩
  · rw [Query.params_toStatement, Query.boundValues]
    show (List.filterMap Predicate.bound? (Predicate.allComparisons _)).filter _ = _
    rw [comparisons, Leaf.filter_bound?_predicate]
  · obtain ⟨tokens, scanned, found⟩ :=
      (search.query registry definition table).exists_scan_where_iff dialect rfl
    refine ⟨tokens, scanned, found.trans ?_⟩
    rw [Predicate.allEmpty_eq, comparisons, List.isEmpty_eq_false_iff, Ne, List.map_eq_nil_iff]

/-- A linked group within a group without links, beside leaves that are compared with null: once as its
absence and once as a value that is written as a word. -/
theorem compile_keeps_leaves_nested :
    let leaf (key : String) (value : Json) (options : PropertyOptions) : Token :=
      .leaf (.property key value options)
    let search : Search :=
      { tokens := [leaf "id" (.string "a") { startsWith := true }, .or,
          .group [.group [leaf "n" .null {}, .or, leaf "id" (.string "b") {}],
            leaf "n" .null { equality := .less }],
          leaf "id" (.string "c") {}] }
    let definition : ModelDefinition :=
      ⟨"M", [⟨"id", .uniqueId, true⟩, ⟨"n", .number, false⟩], ⟨0, by decide⟩, by decide, by decide⟩
    search.check = .ok () ∧
      ∃ query, search.compile .default definition "m" = .ok query ∧
        Predicate.allComparisons query.conditions =
          [.compare "id" .like (.string "a%"), .isNull "n", .compare "id" .equal (.string "b"),
            .compare "n" .less .null, .compare "id" .equal (.string "c")] ∧
        (query.toStatement .postgres).params = [.string "a%", .string "b", .string "c"] := by
  intro leaf search definition
  have accepted : search.check = .ok () := by rfl
  obtain ⟨query, compiled, comparisons, -, statement⟩ :=
    compile_keeps_leaves .default definition "m" accepted
  exact ⟨accepted, query, compiled, comparisons.trans (by rfl), (statement .postgres).1.trans (by rfl)⟩

end Search

end RecordStore
