import RecordStore.Row
import RecordStore.Search.Validity

/-!
# From searches to queries

A valid search becomes a query on one table. A sequence without links joins its values by `AND`; in
one with links every value stands in parentheses and is joined by the link before it, or by `AND`
where there is none. Values are encoded by the codec of the property they are compared with, so that
they match what was stored.
-/

namespace RecordStore

/-! ## Leaves -/

/-- The pattern of a leaf: its text, open at the end for a beginning and at the start for an end. -/
def searchPattern (value : Json) (options : PropertyOptions) : String :=
  let text := match value with
    | .string text => text
    | other => other.toText
  (if options.endsWith then "%" else "") ++ text ++ (if options.startsWith then "%" else "")

/-- The value that a date is compared with: what the column's codec stores for the date, or the
instant itself where the model does not declare the column. -/
def dateValue (registry : CodecRegistry) (definition : ModelDefinition) (key : String)
    (date : Instant) : StoredValue :=
  match definition.property? key with
  | some _ => registry.encodeProperty definition key (.string date.toIsoText)
  | none => .instant date

namespace Leaf

/-- The predicate of a property leaf. Case and patterns are matched on text, whatever the type. -/
def propertyPredicate (registry : CodecRegistry) (definition : ModelDefinition) (key : String)
    (value : Json) (options : PropertyOptions) : Predicate :=
  if options.caseSensitive || options.isPattern then
    .compare key (if options.caseSensitive then .likeAnyCase else .like)
      (.string (searchPattern value options))
  else
    let stored := registry.encodeProperty definition key value
    match options.equality with
    | .equal => .equality key stored
    | equality => .compare key equality.toComparison stored

/-- The predicate of a leaf. -/
def predicate (registry : CodecRegistry) (definition : ModelDefinition) : Leaf → Predicate
  | property key value options => propertyPredicate registry definition key value options
  | datesBefore key date inclusive =>
    .compare key (if inclusive then .lessOrEqual else .less)
      (dateValue registry definition key date)
  | datesAfter key date inclusive =>
    .compare key (if inclusive then .greaterOrEqual else .greater)
      (dateValue registry definition key date)

end Leaf

/-! ## Sequences -/

namespace Token

variable (predicate : Leaf → Predicate)

mutual

/-- The conditions of a token among others that are joined by `AND`. -/
def conditions : Token → List Condition
  | .leaf value => [(.and, predicate value)]
  | .and => []
  | .or => []
  | .group tokens =>
    if tokens.any isLink then [(.and, .group (linkedConditions .and tokens))]
    else plainConditions tokens

/-- The conditions of a token by itself, to be put in parentheses. -/
def isolatedConditions : Token → List Condition
  | .leaf value => [(.and, predicate value)]
  | .and => []
  | .or => []
  | .group tokens =>
    if tokens.any isLink then linkedConditions .and tokens else plainConditions tokens

/-- The conditions of a sequence without links. -/
def plainConditions : List Token → List Condition
  | [] => []
  | token :: rest => conditions token ++ plainConditions rest

/-- The conditions of a sequence with links, the next value being joined by `pending`. -/
def linkedConditions (pending : Connector) : List Token → List Condition
  | [] => []
  | .and :: rest => linkedConditions .and rest
  | .or :: rest => linkedConditions .or rest
  | token :: rest => (pending, .group (isolatedConditions token)) :: linkedConditions .and rest

end

/-- The conditions of a sequence. -/
def sequenceConditions (tokens : List Token) : List Condition :=
  if tokens.any isLink then linkedConditions predicate .and tokens
  else plainConditions predicate tokens

end Token

/-! ## Searches -/

/-- A number of rows that is not zero; zero asks for nothing. -/
def positiveCount (count : Option UInt64) : Option UInt64 := count.filter (· ≠ 0)

namespace Search

/-- The query of a search on a table, if the search has a meaning. -/
def compile (registry : CodecRegistry) (definition : ModelDefinition) (table : String)
    (search : Search) : Except Error Query := do
  let search ← search.validated
  return {
    table := some table
    conditions := Token.sequenceConditions (Leaf.predicate registry definition) search.tokens
    order := (search.sort.map fun sort => (sort.key, sort.direction)).toList
    limit := positiveCount search.take
    offset := positiveCount search.page }

end Search

end RecordStore
