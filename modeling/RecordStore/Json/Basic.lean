import RecordStore.Number.Double

/-!
# JSON values

A JSON number is an integer of 64 bits, signed or unsigned, or a finite double, and the two stay
apart: `1` and `1.0` are different values. The fields of an object are held in the order of the UTF-8
bytes of their names, one field for a name; `Json.ofFields` brings any list of fields into that form,
the last field of a name winning.
-/

namespace RecordStore

/-- A JSON number. -/
inductive JsonNumber where
  | integer (value : Int) (range : -9223372036854775808 ≤ value ∧ value < 18446744073709551616)
  | double (value : FiniteDouble)
  deriving DecidableEq, Repr

/-- A JSON value. -/
inductive Json where
  | null
  | bool (value : Bool)
  | number (value : JsonNumber)
  | string (value : String)
  | array (items : List Json)
  | object (fields : List (String × Json))
  deriving Repr

namespace JsonNumber

/-- The number of a signed word. -/
def ofInt64 (value : Int64) : JsonNumber :=
  .integer value.toInt ⟨value.le_toInt, Int.lt_trans value.toInt_lt (by decide)⟩

/-- The number of an unsigned word. -/
def ofUInt64 (value : UInt64) : JsonNumber :=
  .integer value.toNat ⟨by omega, by have := value.toNat_lt; omega⟩

/-- The number of a byte. -/
def ofUInt8 (value : UInt8) : JsonNumber :=
  .integer value.toNat ⟨by omega, by have := value.toNat_lt; omega⟩

/-- The integer as a signed word, if the number is an integer and fits. -/
def int64? : JsonNumber → Option Int64
  | integer value _ => if value < 9223372036854775808 then some (Int64.ofInt value) else none
  | double _ => none

/-- The number as a double, rounded if it is an integer that no double equals. -/
def toDouble : JsonNumber → Double
  | integer value _ => .ofInt value
  | double value => .finite value

end JsonNumber

namespace Json

/-- A JSON string of the given characters. -/
def text (characters : List Char) : Json := .string (String.ofList characters)

/-- The order of names by their UTF-8 bytes, which is the order by code points. -/
def nameLt (left right : String) : Bool := left.toList < right.toList

/-- The fields with one more, in its place; a field of the same name is replaced. -/
def insertField (name : String) (value : Json) :
    List (String × Json) → List (String × Json)
  | [] => [(name, value)]
  | field :: rest =>
    if name = field.1 then (name, value) :: rest
    else if nameLt name field.1 then (name, value) :: field :: rest
    else field :: insertField name value rest

/-- The object with the given fields, a later field of a name replacing an earlier one. -/
def ofFields (fields : List (String × Json)) : Json :=
  .object (fields.foldl (fun sorted field => insertField field.1 field.2 sorted) [])

/-- The field of a name in a list of fields. -/
def field? (name : String) (fields : List (String × Json)) : Option Json := fields.lookup name

end Json

end RecordStore
