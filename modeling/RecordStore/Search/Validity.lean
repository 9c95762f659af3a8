import RecordStore.Error
import RecordStore.Search.Basic

/-!
# Valid searches

A sequence of tokens has a meaning when links stand only between two values, groups are not empty and
every leaf names a property. Only the query as a whole may be empty.
-/

namespace RecordStore

/-- Whether two links stand side by side. -/
def hasAdjacentLinks : List Token → Bool
  | first :: second :: rest => (first.isLink && second.isLink) || hasAdjacentLinks (second :: rest)
  | _ => false

/-- Refuses tokens whose links are out of place. -/
def checkLinks (tokens : List Token) : Except SequenceFault Unit :=
  if tokens.head?.any Token.isLink then .error .leadingLink
  else if tokens.getLast?.any Token.isLink then .error .trailingLink
  else if hasAdjacentLinks tokens then .error .adjacentLinks
  else .ok ()

mutual

/-- Refuses a leaf without a property and a group that has no meaning. -/
def Token.check : Token → Except SequenceFault Unit
  | .leaf value => if value.key = "" then .error .emptyKey else .ok ()
  | .and => .ok ()
  | .or => .ok ()
  | .group [] => .error .emptyGroup
  | .group (first :: rest) => do
    checkLinks (first :: rest)
    first.check
    Token.checkAll rest

/-- Refuses the first token that has no meaning. -/
def Token.checkAll : List Token → Except SequenceFault Unit
  | [] => .ok ()
  | token :: rest => do
    token.check
    Token.checkAll rest

end

namespace Search

/-- Refuses a search that has no meaning. -/
def check (search : Search) : Except SequenceFault Unit := do
  checkLinks search.tokens
  Token.checkAll search.tokens
  match search.sort with
  | some sort => if sort.key = "" then throw .emptySortKey
  | none => pure ()

/-- The search itself, if it has a meaning. -/
def validated (search : Search) : Except Error Search := do
  (search.check).mapError fun fault => .malformedQuery (.sequence fault)
  return search

end Search

end RecordStore
