import RecordStore.Sql.Statement
import RecordStore.Sql.Token

/-!
# Commands

A command is what a statement says, its parameters in their places. It is read from the text and the
parameters of the statement alone.
-/

namespace RecordStore

/-- What a query returns. -/
inductive Selection where
  /-- The rows themselves. -/
  | rows
  /-- Their number, as a column of the given name. -/
  | count (column : String)
  deriving DecidableEq, Repr

/-- What happens to a row whose key is taken. -/
structure Conflict where
  key : String
  /-- The columns that take the values of the new row; none leaves the old row as it is. -/
  merged : List String
  deriving DecidableEq, Repr

/-- What a statement says. -/
inductive Command where
  | select (selection : Selection) (table : String) (conditions : List Condition)
      (order : List (String × Direction)) (limit offset : Option Nat)
  | insert (table : String) (columns : Option (List String)) (rows : List (List StoredValue))
      (conflict : Option Conflict)
  | delete (table : String) (conditions : List Condition)
  deriving Repr

namespace Command

/-- The tokens before a reader and what it makes of them, with the tokens after. -/
abbrev Reader (α : Type) := List SqlToken → Option (α × List SqlToken)

/-- Reads a keyword. -/
def keyword (text : String) : List SqlToken → Option (List SqlToken)
  | .word found :: rest => if found = text then some rest else none
  | _ => none

/-- Reads a symbol. -/
def symbol (text : String) : List SqlToken → Option (List SqlToken)
  | .symbol found :: rest => if found = text then some rest else none
  | _ => none

/-- Reads an identifier. -/
def identifier : Reader String
  | .name identifier :: rest => some (identifier, rest)
  | _ => none

/-- Reads a value: a parameter or the word for null. -/
def operand : Reader StoredValue
  | .value value :: rest => some (value, rest)
  | .word "NULL" :: rest => some (.null, rest)
  | _ => none

/-- Reads items separated by commas, of which there are at least one and at most `limit`. -/
def commaSeparated {α : Type} (item : Reader α) : (limit : Nat) → Reader (List α)
  | 0, _ => none
  | limit + 1, tokens => do
    let (first, rest) ← item tokens
    match symbol "," rest with
    | some rest =>
      let (others, rest) ← commaSeparated item limit rest
      return (first :: others, rest)
    | none => return ([first], rest)

/-- Reads items in parentheses. -/
def parenthesized {α : Type} (item : Reader α) : Reader (List α) := fun tokens => do
  let rest ← symbol "(" tokens
  let (items, rest) ← commaSeparated item rest.length rest
  return (items, ← symbol ")" rest)

/-! ## Conditions -/

/-- Reads a comparison. -/
def comparison : Reader Comparison
  | .symbol "=" :: rest => some (.equal, rest)
  | .symbol ">" :: rest => some (.greater, rest)
  | .symbol ">=" :: rest => some (.greaterOrEqual, rest)
  | .symbol "<" :: rest => some (.less, rest)
  | .symbol "<=" :: rest => some (.lessOrEqual, rest)
  | .word "LIKE" :: rest => some (.like, rest)
  | .word "ILIKE" :: rest => some (.likeAnyCase, rest)
  | _ => none

mutual

/-- Reads a predicate that has at most `limit` tokens. -/
def predicate : (limit : Nat) → Reader Predicate
  | 0, _ => none
  | limit + 1, .symbol "(" :: rest => do
    let (inner, rest) ← conditions limit .and rest
    return (.group inner, ← symbol ")" rest)
  | _ + 1, .name column :: .word "IS" :: .word "NULL" :: rest => some (.isNull column, rest)
  | _ + 1, .name column :: rest => do
    let (comparison, rest) ← comparison rest
    let (value, rest) ← operand rest
    return (.compare column comparison value, rest)
  | _ + 1, _ => none

/-- Reads conditions that have at most `limit` tokens, the first of which has the given connector. -/
def conditions : (limit : Nat) → Connector → Reader (List Condition)
  | 0, _, _ => none
  | limit + 1, connector, tokens => do
    let (first, rest) ← predicate limit tokens
    match rest with
    | .word "AND" :: rest =>
      let (others, rest) ← conditions limit .and rest
      return ((connector, first) :: others, rest)
    | .word "OR" :: rest =>
      let (others, rest) ← conditions limit .or rest
      return ((connector, first) :: others, rest)
    | rest => return ([(connector, first)], rest)

end

/-- Reads the conditions of a command, if it has any. -/
def whereClause : Reader (List Condition) := fun tokens =>
  match keyword "WHERE" tokens with
  | some rest => conditions (2 * rest.length) .and rest
  | none => some ([], tokens)

/-! ## Order and page -/

/-- Reads a column and the direction of its order. -/
def orderItem : Reader (String × Direction)
  | .name column :: .word "ASC" :: rest => some ((column, .ascending), rest)
  | .name column :: .word "DESC" :: rest => some ((column, .descending), rest)
  | _ => none

/-- Reads the order of a query, if it has one. -/
def orderClause : Reader (List (String × Direction))
  | .word "ORDER" :: .word "BY" :: rest => commaSeparated orderItem rest.length rest
  | tokens => some ([], tokens)

/-- Reads the limit of a query; minus one is none. -/
def limitClause : Reader (Option Nat)
  | .word "LIMIT" :: .symbol "-" :: .number 1 :: rest => some (none, rest)
  | .word "LIMIT" :: .number count :: rest => some (some count, rest)
  | .word "LIMIT" :: _ => none
  | tokens => some (none, tokens)

/-- Reads the offset of a query. -/
def offsetClause : Reader (Option Nat)
  | .word "OFFSET" :: .number count :: rest => some (some count, rest)
  | .word "OFFSET" :: _ => none
  | tokens => some (none, tokens)

/-! ## Inserts -/

/-- Reads a column and the column of the new row that it takes its value from, which is the same. -/
def mergedColumn : Reader String
  | .name column :: .symbol "=" :: .word "excluded" :: .symbol "." :: .name source :: rest =>
    if column = source then some (column, rest) else none
  | _ => none

/-- Reads what happens on a conflict, if the command says so. -/
def conflictClause : Reader (Option Conflict)
  | .word "ON" :: .word "CONFLICT" :: .symbol "(" :: .name key :: .symbol ")" :: .word "DO" :: rest =>
    match rest with
    | .word "NOTHING" :: rest => some (some ⟨key, []⟩, rest)
    | .word "UPDATE" :: .word "SET" :: rest =>
      (commaSeparated mergedColumn rest.length rest).map fun (merged, rest) =>
        (some ⟨key, merged⟩, rest)
    | _ => none
  | .word "ON" :: _ => none
  | tokens => some (none, tokens)

/-- Reads the columns of an insert, if it names them. -/
def columnClause : Reader (Option (List String))
  | .symbol "(" :: rest =>
    (parenthesized identifier (.symbol "(" :: rest)).map fun (columns, rest) => (some columns, rest)
  | tokens => some (none, tokens)

/-! ## Commands -/

/-- Reads what a query returns. -/
def selection : Reader Selection
  | .symbol "*" :: rest => some (.rows, rest)
  | .word "COUNT" :: .symbol "(" :: .symbol "*" :: .symbol ")" :: .word "AS" :: .name column :: rest =>
    some (.count column, rest)
  | _ => none

/-- Reads a command. -/
def read : Reader Command
  | .word "SELECT" :: rest => do
    let (selection, rest) ← selection rest
    let (table, rest) ← identifier (← keyword "FROM" rest)
    let (conditions, rest) ← whereClause rest
    let (order, rest) ← orderClause rest
    let (limit, rest) ← limitClause rest
    let (offset, rest) ← offsetClause rest
    return (select selection table conditions order limit offset, rest)
  | .word "INSERT" :: .word "INTO" :: .name table :: rest => do
    let (columns, rest) ← columnClause rest
    let rest ← keyword "VALUES" rest
    let (rows, rest) ← commaSeparated (parenthesized operand) rest.length rest
    let (conflict, rest) ← conflictClause rest
    return (insert table columns rows conflict, rest)
  | .word "DELETE" :: .word "FROM" :: .name table :: rest => do
    let (conditions, rest) ← whereClause rest
    return (delete table conditions, rest)
  | _ => none

/-- The command of a statement, if the whole text is one. -/
def ofStatement? (statement : Statement) : Option Command := do
  let tokens ← SqlToken.scan statement.text.toList
  let (command, rest) ← read (← SqlToken.resolve statement.params 0 tokens)
  if rest.isEmpty then some command else none

/-- The table of a command. -/
def table : Command → String
  | select _ table .. => table
  | insert table .. => table
  | delete table _ => table

end Command

end RecordStore
