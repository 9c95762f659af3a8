import RecordStore.Sql.Query

/-!
# Statements

A statement is text with placeholders and the parameters for them. A query is first laid out as
fragments, the same ones for every dialect; a dialect then decides how placeholders, the pattern match
without case and the missing limit are written. Values never enter the text: null is written as a
word, any other value as a placeholder.
-/

namespace RecordStore

/-- The text of a statement and the values of its placeholders in order. -/
structure Statement where
  text : String
  params : List StoredValue
  deriving Repr

/-! ## Identifiers -/

/-- The characters of an identifier with every quote doubled. -/
def doubleQuotes : List Char → List Char
  | [] => []
  | c :: rest => if c = '"' then '"' :: '"' :: doubleQuotes rest else c :: doubleQuotes rest

/-- An identifier in quotes. -/
def quoteIdentifier (identifier : List Char) : List Char :=
  '"' :: doubleQuotes identifier ++ ['"']

/-! ## Fragments -/

/-- A piece of a statement. -/
inductive Fragment where
  /-- Text that is the same in every dialect. -/
  | words (text : String)
  /-- A quoted identifier. -/
  | name (identifier : String)
  /-- A comparison. -/
  | comparison (comparison : Comparison)
  /-- A value, bound as a parameter unless it is null. -/
  | value (value : StoredValue)
  /-- The limit of a query that has an offset and no limit of its own. -/
  | noLimit
  deriving Repr

namespace Dialect

/-- The placeholder of the parameter with an index, counted from zero. -/
def placeholder : Dialect → Nat → List Char
  | postgres, index => '$' :: Text.digits (index + 1)
  | sqlite, _ => ['?']

/-- The word for a comparison. -/
def comparisonText : Dialect → Comparison → String
  | _, .equal => "="
  | _, .greater => ">"
  | _, .greaterOrEqual => ">="
  | _, .less => "<"
  | _, .lessOrEqual => "<="
  | _, .like => "LIKE"
  | postgres, .likeAnyCase => "ILIKE"
  | sqlite, .likeAnyCase => "LIKE"

/-- What stands for a limit where there is none; only one dialect needs it before an offset. -/
def noLimitText : Dialect → String
  | postgres => ""
  | sqlite => " LIMIT -1"

end Dialect

namespace Fragment

/-- The parameter that a fragment binds. -/
def param? : Fragment → Option StoredValue
  | .value bound => if bound.isNull then none else some bound
  | _ => none

/-- The text of a fragment, the next parameter having the given index. -/
def text (dialect : Dialect) (index : Nat) : Fragment → List Char
  | .words text => text.toList
  | .name identifier => quoteIdentifier identifier.toList
  | .comparison kind => (dialect.comparisonText kind).toList
  | .value bound => if bound.isNull then "NULL".toList else dialect.placeholder index
  | .noLimit => dialect.noLimitText.toList

/-- The text of fragments, the next parameter having the given index. -/
def render (dialect : Dialect) : Nat → List Fragment → List Char
  | _, [] => []
  | index, fragment :: rest =>
    fragment.text dialect index
      ++ render dialect (if fragment.param?.isSome then index + 1 else index) rest

end Fragment

/-- Groups of fragments with a separator between them. -/
def separated (separator : String) : List (List Fragment) → List Fragment
  | [] => []
  | [fragments] => fragments
  | fragments :: rest => fragments ++ .words separator :: separated separator rest

/-! ## Conditions -/

/-- The word for a connector. -/
def Connector.text : Connector → String
  | and => " AND "
  | or => " OR "

mutual

/-- The fragments of a predicate. -/
def Predicate.fragments : Predicate → List Fragment
  | .compare column comparison value =>
    [.name column, .words " ", .comparison comparison, .words " ", .value value]
  | .isNull column => [.name column, .words " IS NULL"]
  | .group conditions => .words "(" :: conditionFragments true conditions ++ [.words ")"]

/-- The fragments of conditions without the empty ones. The first that is written drops its
connector. -/
def conditionFragments (first : Bool) : List (Connector × Predicate) → List Fragment
  | [] => []
  | (connector, predicate) :: rest =>
    if predicate.isEmpty then conditionFragments first rest
    else
      (if first then [] else [.words connector.text])
        ++ predicate.fragments ++ conditionFragments false rest

end

/-! ## Queries -/

/-- The word for a direction. -/
def Direction.text : Direction → String
  | ascending => " ASC"
  | descending => " DESC"

namespace Query

/-- The table to read from, if there is one. -/
def fromFragments (query : Query) : List Fragment :=
  match query.table with
  | some table => [.words " FROM ", .name table]
  | none => []

/-- The conditions, if any of them is written. -/
def whereFragments (query : Query) : List Fragment :=
  if Predicate.allEmpty query.conditions then []
  else .words " WHERE " :: conditionFragments true query.conditions

/-- The order, if there is one. -/
def orderFragments (query : Query) : List Fragment :=
  if query.order.isEmpty then []
  else .words " ORDER BY "
    :: separated ", " (query.order.map fun entry => [.name entry.1, .words entry.2.text])

/-- A keyword with a number. -/
def countFragment (keyword : String) (count : UInt64) : Fragment :=
  .words (keyword ++ String.ofList (Text.digits count.toNat))

/-- The limit and the offset. -/
def pageFragments (query : Query) : List Fragment :=
  match query.limit, query.offset with
  | none, none => []
  | some limit, none => [countFragment " LIMIT " limit]
  | none, some offset => [.noLimit, countFragment " OFFSET " offset]
  | some limit, some offset => [countFragment " LIMIT " limit, countFragment " OFFSET " offset]

/-- The table to write to; an insert or delete without one leaves its place empty. -/
def targetFragments (query : Query) : List Fragment :=
  match query.table with
  | some table => [.name table]
  | none => []

/-- A row of values in parentheses. -/
def rowFragments (row : List StoredValue) : List Fragment :=
  .words "(" :: separated ", " (row.map fun value => [.value value]) ++ [.words ")"]

/-- The inserted columns other than the key, which a conflict overwrites. -/
def mergedColumns (query : Query) (key : String) : List String := query.columns.filter (· ≠ key)

/-- What happens on a conflict, if the query says so. -/
def conflictFragments (query : Query) : List Fragment :=
  match query.conflictKey with
  | none => []
  | some key =>
    [.words " ON CONFLICT (", .name key, .words ")"]
      ++ match query.mergedColumns key with
        | [] => [.words " DO NOTHING"]
        | columns => .words " DO UPDATE SET "
          :: separated ", " (columns.map fun column =>
            [.name column, .words " = excluded.", .name column])

/-- The fragments of a query. -/
def fragments (query : Query) : List Fragment :=
  match query.kind with
  | .select =>
    .words "SELECT *" :: query.fromFragments ++ query.whereFragments ++ query.orderFragments
      ++ query.pageFragments
  | .count =>
    [.words "SELECT COUNT(*) AS ", .name "count"] ++ query.fromFragments ++ query.whereFragments
  | .insert =>
    .words "INSERT INTO " :: query.targetFragments
      ++ .words " (" :: separated ", " (query.columns.map fun column => [.name column])
      ++ .words ") VALUES " :: separated ", " (query.rows.map rowFragments)
      ++ query.conflictFragments
  | .delete => .words "DELETE FROM " :: query.targetFragments ++ query.whereFragments

/-- The statement of a query in a dialect. -/
def toStatement (query : Query) (dialect : Dialect) : Statement where
  text := String.ofList (Fragment.render dialect 0 query.fragments)
  params := query.fragments.filterMap Fragment.param?

end Query

/-- The parameters of a query do not depend on the dialect. -/
theorem Query.params_eq (query : Query) (left right : Dialect) :
    (query.toStatement left).params = (query.toStatement right).params := rfl

end RecordStore
