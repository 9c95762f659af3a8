import RecordStore.Error
import RecordStore.Search.Basic
import RecordStore.Time.Reader

/-!
# Searches as documents

In a document a link is the word `AND` or `OR`, a group is an array, and a leaf is an object with the
tag `type` or an array that begins with the tag. Reading a search gives the search or the first fault;
what is wrong inside a token is not told apart. Writing a search gives the document it is read from.
-/

namespace RecordStore

/-! ## Leaves -/

namespace Equality

/-- The symbol of an equality. -/
def symbol : Equality → String
  | equal => "="
  | greater => ">"
  | greaterOrEqual => ">="
  | less => "<"
  | lessOrEqual => "<="

/-- The equality of a symbol. -/
def ofSymbol? (symbol : String) : Option Equality :=
  [equal, greater, greaterOrEqual, less, lessOrEqual].find? (·.symbol == symbol)

/-- Reads an equality: a symbol, or an object with a symbol as its only field and nothing in it. -/
def ofJson? : Json → Option Equality
  | .string symbol => ofSymbol? symbol
  | .object [(symbol, .null)] => ofSymbol? symbol
  | .object [(symbol, .object [])] => ofSymbol? symbol
  | _ => none

end Equality

/-- Reads a string. -/
def Json.string? : Json → Option String
  | string value => some value
  | _ => none

/-- Reads a truth value. -/
def Json.bool? : Json → Option Bool
  | bool value => some value
  | _ => none

/-- Reads a part that has a default when it is absent. -/
def readOr {α : Type} (absent : α) (read : Json → Option α) : Option Json → Option α
  | none => some absent
  | some value => read value

namespace PropertyOptions

/-- Reads the options of a property leaf, its equality apart. -/
def ofJson? : Json → Option PropertyOptions
  | .object fields => do
    let startsWith ← readOr false Json.bool? (Json.field? "startsWith" fields)
    let endsWith ← readOr false Json.bool? (Json.field? "endsWith" fields)
    let caseSensitive ← readOr false Json.bool? (Json.field? "caseSensitive" fields)
    return { startsWith, endsWith, caseSensitive }
  | .array items => do
    if 3 < items.length then none
    let startsWith ← readOr false Json.bool? items[0]?
    let endsWith ← readOr false Json.bool? items[1]?
    let caseSensitive ← readOr false Json.bool? items[2]?
    return { startsWith, endsWith, caseSensitive }
  | _ => none

/-- The options as part of a document. -/
def toJson (options : PropertyOptions) : Json :=
  .object [("caseSensitive", .bool options.caseSensitive), ("endsWith", .bool options.endsWith),
    ("startsWith", .bool options.startsWith)]

end PropertyOptions

/-- Reads the options of a date leaf, whose one field is named. -/
def inclusiveOfJson? (name : String) : Json → Option Bool
  | .object fields => readOr false Json.bool? (Json.field? name fields)
  | .array [] => some false
  | .array [item] => item.bool?
  | _ => none

/-- Reads a date. -/
def Instant.ofJson? (json : Json) : Option Instant := json.string?.bind Instant.ofDocument?

/-- The kinds of leaves. -/
inductive LeafTag where
  | property
  | datesBefore
  | datesAfter
  deriving DecidableEq, Repr

namespace LeafTag

/-- The name of a tag. -/
def name : LeafTag → String
  | property => "property"
  | datesBefore => "datesBefore"
  | datesAfter => "datesAfter"

/-- The name of the field that makes a date leaf inclusive. -/
def inclusiveName : LeafTag → String
  | datesAfter => "equalToAndAfter"
  | _ => "equalToAndBefore"

/-- Reads a tag by its name, or by its number. -/
def ofJson? : Json → Option LeafTag
  | .string text => [property, datesBefore, datesAfter].find? (·.name == text)
  | .number (.integer value _) =>
    if value = 0 then some property
    else if value = 1 then some datesBefore
    else if value = 2 then some datesAfter
    else none
  | _ => none

end LeafTag

namespace Leaf

/-- The parts of a leaf in a document: the first is its property, the second its value or date. -/
def ofParts? (tag : LeafTag) (key content equality options : Option Json) : Option Leaf := do
  let key ← key.bind Json.string?
  match tag with
  | .property =>
    let options ← readOr {} PropertyOptions.ofJson? options
    let equality ← readOr .equal Equality.ofJson? equality
    return .property key (content.getD .null) { options with equality }
  | .datesBefore =>
    return .datesBefore key (← content.bind Instant.ofJson?)
      (← readOr false (inclusiveOfJson? tag.inclusiveName) options)
  | .datesAfter =>
    return .datesAfter key (← content.bind Instant.ofJson?)
      (← readOr false (inclusiveOfJson? tag.inclusiveName) options)

/-- Reads a leaf from the fields of an object. -/
def ofFields? (fields : List (String × Json)) : Option Leaf := do
  let tag ← (Json.field? "type" fields).bind LeafTag.ofJson?
  let content := if tag = .property then "value" else "date"
  ofParts? tag (Json.field? "key" fields) (Json.field? content fields)
    (Json.field? "equalitySymbol" fields) (Json.field? "options" fields)

/-- Reads a leaf from the items of an array, the first of which is the tag. -/
def ofItems? : List Json → Option Leaf
  | [] => none
  | tag :: items => do
    match ← LeafTag.ofJson? tag with
    | .property =>
      if 4 < items.length then none
      ofParts? .property items[0]? items[1]? items[2]? items[3]?
    | tag =>
      if 3 < items.length then none
      ofParts? tag items[0]? items[1]? none items[2]?

/-- The leaf as part of a document. -/
def toJson : Leaf → Json
  | property key value options =>
    .object [("equalitySymbol", .string options.equality.symbol), ("key", .string key),
      ("options", options.toJson), ("type", .string LeafTag.property.name), ("value", value)]
  | datesBefore key date inclusive => dates .datesBefore key date inclusive
  | datesAfter key date inclusive => dates .datesAfter key date inclusive
where
  /-- A date leaf as part of a document. -/
  dates (tag : LeafTag) (key : String) (date : Instant) (inclusive : Bool) : Json :=
    .object [("date", .string date.toFullText), ("key", .string key),
      ("options", .object [(tag.inclusiveName, .bool inclusive)]), ("type", .string tag.name)]

end Leaf

/-! ## Tokens -/

namespace Token

/-- The link of a word. -/
def ofWord? : String → Option Token
  | "AND" => some .and
  | "OR" => some .or
  | _ => none

mutual

/-- Reads a token. An array is a group if all its items are tokens, and otherwise may be a leaf. -/
def ofJson? : Json → Option Token
  | .string word => ofWord? word
  | .object fields =>
    let link := match fields with
      | [(word, .null)] => ofWord? word
      | _ => none
    link.or ((Leaf.ofFields? fields).map .leaf)
  | .array items => ((listOfJson? items).map .group).or ((Leaf.ofItems? items).map .leaf)
  | _ => none

/-- Reads tokens. -/
def listOfJson? : List Json → Option (List Token)
  | [] => some []
  | item :: rest => do
    let token ← ofJson? item
    let tokens ← listOfJson? rest
    return token :: tokens

end

mutual

/-- The token as part of a document. -/
def toJson : Token → Json
  | .leaf value => value.toJson
  | .and => .string "AND"
  | .or => .string "OR"
  | .group tokens => .array (listToJson tokens)

/-- The tokens as part of a document. -/
def listToJson : List Token → List Json
  | [] => []
  | token :: rest => token.toJson :: listToJson rest

end

end Token

/-! ## Searches -/

namespace SortStatement

/-- Reads a direction: `asc` is ascending and any other word descends. -/
def directionOfJson (json : Json) : Reading Direction := do
  return if (← Document.string json) = "asc" then .ascending else .descending

/-- Reads an order. -/
def ofJson : Json → Reading SortStatement
  | .object fields => do
    let key ← Document.field? "key" Document.string fields
    let direction ← Document.field? "order" directionOfJson fields
    return ⟨← Document.required "key" key, direction.getD .ascending⟩
  | .array items => do
    let key ← Document.element items 0 Document.string "struct SortStatement" 2
    let direction ← Document.element? items 1 directionOfJson
    Document.noMore items 2
    return ⟨key, direction.getD .ascending⟩
  | other => Document.unexpected other "struct SortStatement"

/-- The order as part of a document. -/
def toJson (sort : SortStatement) : Json :=
  .object [("key", .string sort.key),
    ("order", .string (match sort.direction with | .ascending => "asc" | .descending => "dsc"))]

end SortStatement

namespace Search

/-- Reads the tokens of a query. -/
def tokensOfJson (json : Json) : Reading (List Token) :=
  Document.list (fun item =>
    match Token.ofJson? item with
    | some token => .ok token
    | none => .error .noTokenForm) json

/-- Reads the structure of a search. -/
def read : Json → Reading Search
  | .object fields => do
    let page ← Document.field? "page" (Document.nullable Document.word) fields
    let tokens ← Document.field? "query" tokensOfJson fields
    let sort ← Document.field? "sort" (Document.nullable SortStatement.ofJson) fields
    let take ← Document.field? "take" (Document.nullable Document.word) fields
    return ⟨← Document.required "query" tokens, sort.join, take.join, page.join⟩
  | .array items => do
    let tokens ← Document.element items 0 tokensOfJson "struct OrmSearch" 4
    let sort ← Document.element? items 1 (Document.nullable SortStatement.ofJson)
    let take ← Document.element? items 2 (Document.nullable Document.word)
    let page ← Document.element? items 3 (Document.nullable Document.word)
    Document.noMore items 4
    return ⟨tokens, sort.join, take.join, page.join⟩
  | other => Document.unexpected other "struct OrmSearch"

/-- Reads a search from a document. -/
def ofJson (json : Json) : Except Error Search :=
  (read json).mapError fun fault => .malformedQuery (.document fault)

/-- A field that is left out when it has no value. -/
def optionalField (name : String) : Option Json → List (String × Json)
  | some value => [(name, value)]
  | none => []

/-- The document of a search. -/
def toJson (search : Search) : Json :=
  let word (value : UInt64) : Json := .number (.ofUInt64 value)
  .object (optionalField "page" (search.page.map word)
    ++ ("query", .array (Token.listToJson search.tokens))
    :: optionalField "sort" (search.sort.map SortStatement.toJson)
    ++ optionalField "take" (search.take.map word))

end Search

end RecordStore
