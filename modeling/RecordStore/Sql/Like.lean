/-!
# Patterns

The patterns of `LIKE`: a percent sign matches any text, an underscore any one character, and every
other character itself. A dialect may have an escape character, which makes the next one match itself.
-/

namespace RecordStore

/-- A pattern, taken apart. -/
inductive PatternItem where
  | anyText
  | anyChar
  | char (c : Char)
  deriving DecidableEq, Repr

/-- The items of a pattern. An escape character at the end matches itself. -/
def patternItems (escape : Option Char) : List Char → List PatternItem
  | [] => []
  | [c] =>
    [if c = '%' then .anyText else if c = '_' then .anyChar else .char c]
  | c :: d :: rest =>
    if escape = some c then .char d :: patternItems escape rest
    else (if c = '%' then .anyText else if c = '_' then .anyChar else .char c)
      :: patternItems escape (d :: rest)

/-- Whether a text or one of its endings has a property. -/
def someEnding (holds : List Char → Bool) : List Char → Bool
  | [] => holds []
  | c :: rest => holds (c :: rest) || someEnding holds rest

/-- Whether a text matches the items of a pattern, characters being compared as told. -/
def matchesItems (same : Char → Char → Bool) : List PatternItem → List Char → Bool
  | [], text => text.isEmpty
  | .anyText :: items, text => someEnding (matchesItems same items) text
  | .anyChar :: items, text =>
    match text with
    | [] => false
    | _ :: rest => matchesItems same items rest
  | .char c :: items, text =>
    match text with
    | [] => false
    | d :: rest => same c d && matchesItems same items rest

/-- Whether a pattern ends in an escape character that has nothing to escape. -/
def endsInEscape (escape : Char) : List Char → Bool
  | [] => false
  | [c] => c == escape
  | c :: d :: rest =>
    if c = escape then endsInEscape escape rest else endsInEscape escape (d :: rest)

/-- Whether a text matches a pattern in which a backslash escapes. A pattern that ends in the escape
character is refused, so that nothing matches it. -/
def matchesPattern (pattern text : String) : Bool :=
  !endsInEscape '\\' pattern.toList
    && matchesItems (· == ·) (patternItems (some '\\') pattern.toList) text.toList

end RecordStore
