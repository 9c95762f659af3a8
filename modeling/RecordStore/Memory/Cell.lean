import RecordStore.Memory.CellKind
import RecordStore.Sql.Like

/-!
# Cells

What a column of a store without types holds: null, a number, text or bytes. Any stored value can be
bound to a cell, and a cell is read back by its own kind alone.
-/

namespace RecordStore

/-- The content of a column. -/
inductive Cell where
  | null
  | integer (value : Int64)
  | real (value : Double)
  | text (value : String)
  | blob (value : List UInt8)
  deriving DecidableEq, Repr

namespace Cell

/-- The cell that a stored value is kept in. A truth value is a number, NaN is null, and what a cell
has no kind for is its text. -/
def ofStored : StoredValue → Cell
  | .null => null
  | .bool value => integer (if value then 1 else 0)
  | .integer value => integer value
  | .double .nan => null
  | .double value => real value
  | .string value => text value
  | .bytes value => blob value
  | .uuid value => text value.toText
  | .instant value => text value.toOffsetText
  | .date value => text value.toText
  | .json value => text value.toText

/-- The stored value that a cell is read as. -/
def toStored : Cell → StoredValue
  | null => .null
  | integer value => .integer value
  | real value => .double value
  | text value => .string value
  | blob value => .bytes value

/-! ## Order -/

/-- The order of an integer and a real number by value. -/
def compareReal (left : Int64) : Double → Ordering
  | .finite right => compare (left.toInt * unitsPerOne) right.signedUnits
  | .infinite negative => if negative then .gt else .lt
  | .nan => .gt

/-- The order of two real numbers by value; zero has no sign here. -/
def compareReals : Double → Double → Ordering
  | .finite left, .finite right => compare left.signedUnits right.signedUnits
  | .infinite left, .infinite right => compare right left
  | .infinite negative, _ => if negative then .lt else .gt
  | _, .infinite negative => if negative then .gt else .lt
  | .nan, .nan => .eq
  | .nan, _ => .lt
  | _, .nan => .gt

/-- The order of lists of numbers, item by item. -/
def compareLists : List Nat → List Nat → Ordering
  | [], [] => .eq
  | [], _ => .lt
  | _, [] => .gt
  | a :: left, b :: right => (compare a b).then (compareLists left right)

/-- The place of the kind of a cell in the order of kinds. -/
def rank : Cell → Nat
  | null => 0
  | integer _ => 1
  | real _ => 1
  | text _ => 2
  | blob _ => 3

/-- The order of cells: null, numbers by value, text by code points, bytes. -/
def order : Cell → Cell → Ordering
  | integer left, integer right => compare left.toInt right.toInt
  | integer left, real right => compareReal left right
  | real left, integer right => (compareReal right left).swap
  | real left, real right => compareReals left right
  | text left, text right => compareLists (left.toList.map Char.toNat) (right.toList.map Char.toNat)
  | blob left, blob right => compareLists (left.map UInt8.toNat) (right.map UInt8.toNat)
  | left, right => compare left.rank right.rank

/-! ## Patterns -/

/-- Whether a text matches a pattern, without regard to the case of ASCII letters; nothing but text
matches. -/
def like : Cell → Cell → Bool
  | text value, text pattern =>
    matchesItems (fun c d => c.toLower == d.toLower) (patternItems none pattern.toList) value.toList
  | _, _ => false

/-- The kind of these cells. It has no match that tells upper from lower case. -/
def kind : CellKind Cell where
  null := null
  isNull cell := cell == null
  ofStored := ofStored
  toStored := toStored
  order := order
  like := like
  likeAnyCase := like

end Cell

end RecordStore
