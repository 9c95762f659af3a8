import RecordStore.Sql.Query

/-!
# Kinds of cells

Stores differ in what they keep of a value that is bound to a column: one keeps it as it is, another
turns it into one of a few kinds of its own. A kind of cells says how values are bound and read back
and how cells compare, and a table in memory may have cells of any kind.
-/

namespace RecordStore

/-- What the columns of a store hold. -/
structure CellKind (γ : Type) where
  null : γ
  isNull : γ → Bool
  /-- The cell that a stored value is kept in. -/
  ofStored : StoredValue → γ
  /-- The stored value that a cell is read as. -/
  toStored : γ → StoredValue
  /-- The order of cells; those of equal order are the same to the store. -/
  order : γ → γ → Ordering
  /-- Whether a cell matches a pattern. -/
  like : γ → γ → Bool
  likeAnyCase : γ → γ → Bool

namespace CellKind

variable {γ : Type} (kind : CellKind γ)

/-- Whether a comparison holds between two cells; it is unknown when one is null. -/
def compares (comparison : Comparison) (left right : γ) : Option Bool :=
  if kind.isNull left || kind.isNull right then none
  else some <| match comparison with
    | .equal => kind.order left right == .eq
    | .greater => kind.order left right == .gt
    | .greaterOrEqual => kind.order left right != .lt
    | .less => kind.order left right == .lt
    | .lessOrEqual => kind.order left right != .gt
    | .like => kind.like left right
    | .likeAnyCase => kind.likeAnyCase left right

/-- Whether two cells are equal; nothing equals null. -/
def equals (left right : γ) : Bool := kind.compares .equal left right == some true

/-- The cells that hold each value as it was bound, in any order and with any match of patterns. -/
def kept (order : StoredValue → StoredValue → Ordering)
    (like likeAnyCase : StoredValue → StoredValue → Bool) : CellKind StoredValue where
  null := .null
  isNull := StoredValue.isNull
  ofStored value := value
  toStored value := value
  order
  like
  likeAnyCase

end CellKind

end RecordStore
