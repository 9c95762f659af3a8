import RecordStore.Sql.Query

/-!
# Words of a statement

A statement is cut into tokens: keywords, quoted identifiers, numbers, placeholders and symbols. What
stands inside the quotes of an identifier is never looked at as anything else. Placeholders are then
replaced by the parameters they stand for.
-/

namespace RecordStore

/-- A token of a statement. -/
inductive SqlToken where
  | word (text : String)
  | name (identifier : String)
  | number (value : Nat)
  | symbol (text : String)
  /-- A placeholder for the parameter after the last one. -/
  | nextParam
  /-- A placeholder for the parameter with a number, counted from one. -/
  | param (number : Nat)
  /-- A parameter in the place of its placeholder. -/
  | value (value : StoredValue)
  deriving Repr

namespace SqlToken

/-- Reads an identifier up to its closing quote, the opening one having been read. A doubled quote is
one quote of the identifier. -/
def scanIdentifier : List Char → Option (List Char × List Char)
  | [] => none
  | '"' :: '"' :: rest => (scanIdentifier rest).map fun (body, rest) => ('"' :: body, rest)
  | '"' :: rest => some ([], rest)
  | c :: rest => (scanIdentifier rest).map fun (body, rest) => (c :: body, rest)

/-- Whether a character is part of a keyword. -/
def isWordChar (c : Char) : Bool := c.isAlphanum || c == '_'

/-- The longest run of characters of a kind, as a string, and what follows it. -/
def run (kind : Char → Bool) (text : List Char) : String × List Char :=
  (String.ofList (text.takeWhile kind), text.dropWhile kind)

/-- Reads one token from a text that is not empty. -/
def next : Char → List Char → Option (SqlToken × List Char)
  | '"', rest => (scanIdentifier rest).map fun (body, rest) => (name (String.ofList body), rest)
  | '?', rest => some (nextParam, rest)
  | '$', rest =>
    (Text.natural? (Text.leadingDigits rest)).map fun position =>
      (param position, Text.afterDigits rest)
  | '<', '=' :: rest => some (symbol "<=", rest)
  | '>', '=' :: rest => some (symbol ">=", rest)
  | c, rest =>
    if c.isDigit then
      some (number (Text.ofDigits (Text.leadingDigits (c :: rest))), Text.afterDigits rest)
    else if c.isAlpha then
      some (word (run isWordChar (c :: rest)).1, (run isWordChar (c :: rest)).2)
    else if ['(', ')', ',', '=', '<', '>', '*', '.', '-'].contains c then
      some (symbol (String.singleton c), rest)
    else none

/-- The tokens of a text, of which there are at most `limit`. -/
def scanAll : (limit : Nat) → List Char → Option (List SqlToken)
  | _, [] => some []
  | 0, _ :: _ => none
  | limit + 1, c :: rest =>
    if c = ' ' then scanAll limit rest
    else do
      let (token, rest) ← next c rest
      return token :: (← scanAll limit rest)

/-- The tokens of a text; it has no more tokens than characters. -/
def scan (text : List Char) : Option (List SqlToken) := scanAll text.length text

/-- The tokens with the parameters in the place of their placeholders, the next parameter having the
given index. -/
def resolve (params : List StoredValue) : Nat → List SqlToken → Option (List SqlToken)
  | _, [] => some []
  | index, nextParam :: rest => do
    return value (← params[index]?) :: (← resolve params (index + 1) rest)
  | index, param position :: rest => do
    if position = 0 then none
    return value (← params[position - 1]?) :: (← resolve params index rest)
  | index, token :: rest => do
    return token :: (← resolve params index rest)

end SqlToken

end RecordStore
