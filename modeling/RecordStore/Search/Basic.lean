import RecordStore.Sql.Query

/-!
# Searches

A search is a sequence of tokens with an order and a page. A value token is a leaf, which compares one
property, or a group in parentheses; between two values there may be a link. The builder functions
append one token each.
-/

namespace RecordStore

/-- How a property leaf compares. -/
inductive Equality where
  | equal
  | greater
  | greaterOrEqual
  | less
  | lessOrEqual
  deriving DecidableEq, Repr

namespace Equality

/-- The comparison of columns that an equality stands for. -/
def toComparison : Equality → Comparison
  | equal => .equal
  | greater => .greater
  | greaterOrEqual => .greaterOrEqual
  | less => .less
  | lessOrEqual => .lessOrEqual

end Equality

/-- How a property leaf matches. -/
structure PropertyOptions where
  startsWith : Bool := false
  endsWith : Bool := false
  caseSensitive : Bool := false
  equality : Equality := .equal
  deriving DecidableEq, Repr

/-- Whether the leaf matches a pattern. -/
def PropertyOptions.isPattern (options : PropertyOptions) : Bool :=
  options.startsWith || options.endsWith

/-- A comparison of one property. -/
inductive Leaf where
  | property (key : String) (value : Json) (options : PropertyOptions)
  /-- Before an instant, or at it when `inclusive`. -/
  | datesBefore (key : String) (date : Instant) (inclusive : Bool)
  /-- After an instant, or at it when `inclusive`. -/
  | datesAfter (key : String) (date : Instant) (inclusive : Bool)
  deriving Repr

/-- The property that a leaf compares. -/
def Leaf.key : Leaf → String
  | property key _ _ => key
  | datesBefore key _ _ => key
  | datesAfter key _ _ => key

/-- An element of a query. -/
inductive Token where
  | leaf (leaf : Leaf)
  | and
  | or
  /-- A sequence in parentheses. -/
  | group (tokens : List Token)
  deriving Repr

namespace Token

/-- Whether a token joins two values. -/
def isLink : Token → Bool
  | and => true
  | or => true
  | _ => false

end Token

/-- The order of the records of a search. -/
structure SortStatement where
  key : String
  direction : Direction
  deriving DecidableEq, Repr

/-- A search. -/
structure Search where
  tokens : List Token
  sort : Option SortStatement := none
  /-- The greatest number of rows. -/
  take : Option UInt64 := none
  /-- The number of rows to pass over. -/
  page : Option UInt64 := none
  deriving Repr

/-! ## Building a search -/

namespace Search

/-- The search for every record. -/
def all : Search := { tokens := [] }

/-- The search with one more token. -/
def addToken (search : Search) (token : Token) : Search :=
  { search with tokens := search.tokens ++ [token] }

/-- The search with a property leaf. -/
def property (search : Search) (key : String) (value : Json) (options : PropertyOptions) : Search :=
  search.addToken (.leaf (.property key value options))

/-- The search with a leaf for dates before an instant. -/
def datesBefore (search : Search) (key : String) (date : Instant) (inclusive : Bool) : Search :=
  search.addToken (.leaf (.datesBefore key date inclusive))

/-- The search with a leaf for dates after an instant. -/
def datesAfter (search : Search) (key : String) (date : Instant) (inclusive : Bool) : Search :=
  search.addToken (.leaf (.datesAfter key date inclusive))

/-- The search with the tokens of another one as a group; order and page of that one do not count. -/
def complex (search inner : Search) : Search := search.addToken (.group inner.tokens)

/-- The search with an order. -/
def sortBy (search : Search) (key : String) (direction : Direction) : Search :=
  { search with sort := some ⟨key, direction⟩ }

end Search

end RecordStore
