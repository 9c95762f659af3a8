import Mathlib.Data.List.Forall2
import RecordStore.Proofs.Search.Meaning
import RecordStore.Proofs.Sql.BoundValues

/-!
# Texts of searches

What is searched for never enters the text of a statement. Two searches that differ in the values and
the dates of their leaves only (`Search.Alike`) compile to queries that are the same once their values
are erased (`Search.erased_query`), if the encoded values are null at the same leaves: an equality with
null asks for its absence, which is another text.

The main statement gathers what is known of values and texts (`Query.text_of_replaced_values`).
-/

namespace RecordStore

/-! ## Leaves -/

namespace Leaf

section Encoded

variable (registry : CodecRegistry) (definition : ModelDefinition)

/-- What the value of a leaf is encoded to before it is bound. -/
def encodedValue : Leaf → StoredValue
  | property key value options =>
    if options.caseSensitive || options.isPattern then .string (searchPattern value options)
    else registry.encodeProperty definition key value
  | datesBefore key date _ => dateValue registry definition key date
  | datesAfter key date _ => dateValue registry definition key date

/-- The predicate that compares the property of a leaf, in the way of the leaf, with a value. -/
def comparing (value : StoredValue) : Leaf → Predicate
  | property key _ options =>
    if options.caseSensitive || options.isPattern then
      .compare key (if options.caseSensitive then .likeAnyCase else .like) value
    else match options.equality with
      | .equal => .equality key value
      | equality => .compare key equality.toComparison value
  | datesBefore key _ inclusive => .compare key (if inclusive then .lessOrEqual else .less) value
  | datesAfter key _ inclusive => .compare key (if inclusive then .greaterOrEqual else .greater) value

theorem predicate_eq_comparing (leaf : Leaf) :
    leaf.predicate registry definition = leaf.comparing (leaf.encodedValue registry definition) := by
  cases leaf with
  | property key value options =>
    rw [predicate, propertyPredicate, comparing, encodedValue]
    split <;> rfl
  | datesBefore => rfl
  | datesAfter => rfl

end Encoded

theorem mapValues_comparing (leaf : Leaf) (value : StoredValue) :
    (leaf.comparing value).mapValues StoredValue.erased = leaf.comparing value.erased := by
  cases leaf with
  | property key _ options =>
    have equality : (Predicate.equality key value).mapValues StoredValue.erased =
        .equality key value.erased := by
      rw [Predicate.equality, Predicate.equality, StoredValue.isNull_erased]
      split <;> rfl
    rw [comparing, comparing]
    split
    · rfl
    · cases options.equality with
      | equal => exact equality
      | _ => rfl
  | datesBefore => rfl
  | datesAfter => rfl

/-- Leaves that compare the same property in the same way. -/
inductive SameForm : Leaf → Leaf → Prop
  | property (key : String) (options : PropertyOptions) (left right : Json) :
    SameForm (.property key left options) (.property key right options)
  | datesBefore (key : String) (inclusive : Bool) (left right : Instant) :
    SameForm (.datesBefore key left inclusive) (.datesBefore key right inclusive)
  | datesAfter (key : String) (inclusive : Bool) (left right : Instant) :
    SameForm (.datesAfter key left inclusive) (.datesAfter key right inclusive)

theorem SameForm.comparing_eq {left right : Leaf} (same : left.SameForm right) (value : StoredValue) :
    left.comparing value = right.comparing value := by
  cases same <;> rfl

variable (registry : CodecRegistry) (definition : ModelDefinition)

/-- Leaves that differ in their values only, of which both or neither is encoded to null. -/
structure Alike (left right : Leaf) : Prop where
  form : left.SameForm right
  null : (left.encodedValue registry definition).isNull = (right.encodedValue registry definition).isNull

theorem erased_predicate {left right : Leaf} (alike : left.Alike registry definition right) :
    (left.predicate registry definition).mapValues StoredValue.erased =
      (right.predicate registry definition).mapValues StoredValue.erased := by
  rw [predicate_eq_comparing, predicate_eq_comparing, mapValues_comparing, mapValues_comparing,
    StoredValue.erased_eq_iff.2 alike.null, alike.form.comparing_eq]

end Leaf

/-! ## Tokens -/

namespace Token

/-- Tokens of the same shape whose leaves are related one by one. -/
inductive Alike (related : Leaf → Leaf → Prop) : Token → Token → Prop
  | leaf {left right : Leaf} : related left right → Alike related (.leaf left) (.leaf right)
  | and : Alike related .and .and
  | or : Alike related .or .or
  | group {left right : List Token} :
    List.Forall₂ (Alike related) left right → Alike related (.group left) (.group right)

variable {related : Leaf → Leaf → Prop}

theorem Alike.isLink_eq {left right : Token} (alike : left.Alike related right) :
    left.isLink = right.isLink := by
  cases alike <;> rfl

theorem any_isLink_of_alike {left right : List Token} (alike : List.Forall₂ (Alike related) left right) :
    left.any isLink = right.any isLink := by
  induction alike with
  | nil => rfl
  | cons head _ ih => rw [List.any_cons, List.any_cons, head.isLink_eq, ih]

section Conditions

variable {predicate : Leaf → Predicate} {replace : StoredValue → StoredValue}

/-- Related leaves have the same predicate once values are replaced. -/
def AgreesOn (predicate : Leaf → Predicate) (replace : StoredValue → StoredValue)
    (related : Leaf → Leaf → Prop) : Prop :=
  ∀ left right, related left right →
    (predicate left).mapValues replace = (predicate right).mapValues replace

mutual

/-- Tokens that are alike have the same conditions once values are replaced. -/
theorem mapAllValues_conditions (agrees : AgreesOn predicate replace related) {left right : Token}
    (alike : left.Alike related right) :
    Predicate.mapAllValues replace (conditions predicate left) =
      Predicate.mapAllValues replace (conditions predicate right) := by
  cases left with
  | and => cases alike; rfl
  | or => cases alike; rfl
  | leaf value =>
    cases alike with
    | leaf leaves =>
      exact congrArg (fun predicate => [(Connector.and, predicate)]) (agrees _ _ leaves)
  | group tokens =>
    cases alike with
    | group members =>
      rw [conditions, conditions, any_isLink_of_alike members]
      split
      · exact congrArg (fun conditions => [(Connector.and, Predicate.group conditions)])
          (mapAllValues_linkedConditions agrees .and members)
      · exact mapAllValues_plainConditions agrees members
termination_by structural left

theorem mapAllValues_isolatedConditions (agrees : AgreesOn predicate replace related)
    {left right : Token} (alike : left.Alike related right) :
    Predicate.mapAllValues replace (isolatedConditions predicate left) =
      Predicate.mapAllValues replace (isolatedConditions predicate right) := by
  cases left with
  | and => cases alike; rfl
  | or => cases alike; rfl
  | leaf value =>
    cases alike with
    | leaf leaves =>
      exact congrArg (fun predicate => [(Connector.and, predicate)]) (agrees _ _ leaves)
  | group tokens =>
    cases alike with
    | group members =>
      rw [isolatedConditions, isolatedConditions, any_isLink_of_alike members]
      split
      · exact mapAllValues_linkedConditions agrees .and members
      · exact mapAllValues_plainConditions agrees members
termination_by structural left

theorem mapAllValues_plainConditions (agrees : AgreesOn predicate replace related)
    {left right : List Token} (alike : List.Forall₂ (Alike related) left right) :
    Predicate.mapAllValues replace (plainConditions predicate left) =
      Predicate.mapAllValues replace (plainConditions predicate right) := by
  cases left with
  | nil => cases alike; rfl
  | cons token rest =>
    cases alike with
    | cons head tail =>
      rw [plainConditions, plainConditions, Predicate.mapAllValues_append,
        Predicate.mapAllValues_append, mapAllValues_conditions agrees head,
        mapAllValues_plainConditions agrees tail]
termination_by structural left

theorem mapAllValues_linkedConditions (agrees : AgreesOn predicate replace related)
    (pending : Connector) {left right : List Token}
    (alike : List.Forall₂ (Alike related) left right) :
    Predicate.mapAllValues replace (linkedConditions predicate pending left) =
      Predicate.mapAllValues replace (linkedConditions predicate pending right) := by
  cases left with
  | nil => cases alike; rfl
  | cons token rest =>
    cases alike with
    | cons head tail =>
      cases token with
      | and => cases head; exact mapAllValues_linkedConditions agrees .and tail
      | or => cases head; exact mapAllValues_linkedConditions agrees .or tail
      | leaf value =>
        have first := mapAllValues_isolatedConditions agrees head
        have others := mapAllValues_linkedConditions agrees .and tail
        cases head
        simp only [linkedConditions, Predicate.mapAllValues, Predicate.mapValues, first, others]
      | group tokens =>
        have first := mapAllValues_isolatedConditions agrees head
        have others := mapAllValues_linkedConditions agrees .and tail
        cases head
        simp only [linkedConditions, Predicate.mapAllValues, Predicate.mapValues, first, others]
termination_by structural left

end

theorem mapAllValues_sequenceConditions (agrees : AgreesOn predicate replace related)
    {left right : List Token} (alike : List.Forall₂ (Alike related) left right) :
    Predicate.mapAllValues replace (sequenceConditions predicate left) =
      Predicate.mapAllValues replace (sequenceConditions predicate right) := by
  rw [sequenceConditions, sequenceConditions, any_isLink_of_alike alike]
  split
  · exact mapAllValues_linkedConditions agrees .and alike
  · exact mapAllValues_plainConditions agrees alike

end Conditions

end Token

/-! ## Searches -/

namespace Search

/-- Searches that differ in the values and the dates of their leaves only, both or neither of which is
encoded to null. -/
structure Alike (registry : CodecRegistry) (definition : ModelDefinition) (left right : Search) :
    Prop where
  tokens : List.Forall₂ (Token.Alike (Leaf.Alike registry definition)) left.tokens right.tokens
  sort : left.sort = right.sort
  take : left.take = right.take
  page : left.page = right.page

/-- The queries of searches that are alike differ in values only. -/
theorem erased_query {registry : CodecRegistry} {definition : ModelDefinition} {left right : Search}
    (alike : left.Alike registry definition right) (table : String) :
    (left.query registry definition table).erased = (right.query registry definition table).erased := by
  have conditions := Token.mapAllValues_sequenceConditions
    (fun _ _ leaves => Leaf.erased_predicate registry definition leaves) alike.tokens
  simp only [Query.erased, Query.mapValues, query, conditions, alike.sort, alike.take, alike.page]

end Search

/-! ## Values and texts -/

/-- Values are bound and never written. Replacing the values of a query, null by null only, leaves its
text and replaces its parameters; more generally, queries that differ in values only have the same text,
and the parameters of one are those of the other with the values of the same places. So searches that
differ in values and dates only have the same text. -/
theorem Query.text_of_replaced_values :
    (∀ (query : Query) (replace : StoredValue → StoredValue),
      (∀ value, (replace value).isNull = value.isNull) → ∀ dialect,
        ((query.mapValues replace).toStatement dialect).text = (query.toStatement dialect).text ∧
        ((query.mapValues replace).toStatement dialect).params =
          (query.toStatement dialect).params.map replace) ∧
    (∀ query other : Query, query.erased = other.erased → ∀ dialect,
      (query.toStatement dialect).text = (other.toStatement dialect).text ∧
      (query.toStatement dialect).params.length = (other.toStatement dialect).params.length ∧
      (query.toStatement dialect).params.zip (other.toStatement dialect).params =
        (query.boundValues.zip other.boundValues).filter (!·.1.isNull)) ∧
    ∀ (registry : CodecRegistry) (definition : ModelDefinition) (table : String) (left right : Search),
      left.check = .ok () → right.check = .ok () → left.Alike registry definition right →
        ∃ query other, left.compile registry definition table = .ok query ∧
          right.compile registry definition table = .ok other ∧
          ∀ dialect, (query.toStatement dialect).text = (other.toStatement dialect).text := by
  refine ⟨fun query replace keepsNull dialect => ?_, fun query other same dialect => ?_, ?_⟩
  · rw [toStatement_mapValues keepsNull]
    exact ⟨rfl, rfl⟩
  · exact ⟨text_eq_of_erased same dialect, length_params_of_erased same dialect,
      zip_params_of_erased same dialect⟩
  · intro registry definition table left right leftValid rightValid alike
    refine ⟨_, _, Search.compile_of_check registry definition table leftValid,
      Search.compile_of_check registry definition table rightValid, fun dialect => ?_⟩
    exact text_eq_of_erased (Search.erased_query alike table) dialect

/-- Text that would end an identifier or a comparison, two values where there was one twice, a null in a
group, and searches with a pattern, a null and a date. -/
theorem Query.text_of_replaced_values_quoted :
    let query : Query :=
      { table := some "t"
        conditions := [(.and, .compare "a" .equal (.string "x")),
          (.or, .group [(.or, .compare "b" .less .null), (.or, .compare "c" .like (.string "x"))])] }
    let other : Query :=
      { table := some "t"
        conditions := [(.and, .compare "a" .equal (.integer 7)),
          (.or, .group [(.or, .compare "b" .less .null),
            (.or, .compare "c" .like (.string "\" OR $1 = ?"))])] }
    let replace (value : StoredValue) : StoredValue :=
      if value.isNull then .null else .string "' OR 1=1 --"
    let model : ModelDefinition :=
      ⟨"M", [⟨"id", .uniqueId, true⟩, ⟨"n", .number, false⟩], ⟨0, by decide⟩, by decide, by decide⟩
    let search (id n : Json) (date : Instant) : Search :=
      { tokens := [.leaf (.property "id" id { startsWith := true }), .or,
          .group [.leaf (.property "n" n {}), .leaf (.datesAfter "at" date true)]] }
    let left := search (.string "a") .null ⟨0, 0, by decide, by decide, by decide⟩
    let right := search .null .null ⟨1648944000, 500, by decide, by decide, by decide⟩
    ((query.mapValues replace).toStatement .postgres).text = (query.toStatement .postgres).text ∧
      (query.toStatement .sqlite).params.zip (other.toStatement .sqlite).params =
        (query.boundValues.zip other.boundValues).filter (!·.1.isNull) ∧
      ∃ query other, left.compile .default model "m" = .ok query ∧
        right.compile .default model "m" = .ok other ∧
        ∀ dialect, (query.toStatement dialect).text = (other.toStatement dialect).text := by
  intro query other replace model search left right
  have keepsNull (value : StoredValue) : (replace value).isNull = value.isNull := by
    cases value <;> rfl
  have alike : left.Alike .default model right := by
    refine ⟨.cons (.leaf ⟨.property "id" { startsWith := true } _ _, rfl⟩) (.cons .or (.cons ?_ .nil)),
      rfl, rfl, rfl⟩
    exact .group (.cons (.leaf ⟨.property "n" {} _ _, rfl⟩)
      (.cons (.leaf ⟨.datesAfter "at" true _ _, rfl⟩) .nil))
  obtain ⟨replaced, erased, searches⟩ := text_of_replaced_values
  exact ⟨(replaced query replace keepsNull .postgres).1, (erased query other rfl .sqlite).2.2,
    searches .default model "m" left right rfl rfl alike⟩

end RecordStore
