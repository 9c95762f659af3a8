import RecordStore.Json.Printer
import RecordStore.Text.Quoted
import RecordStore.Time.Text
import RecordStore.Uuid

/-!
# Stored values

A stored value is what a column of a store holds and what a statement binds as a parameter.
-/

namespace RecordStore

/-- A value of a column. -/
inductive StoredValue where
  | null
  | bool (value : Bool)
  | integer (value : Int64)
  | double (value : Double)
  | string (value : String)
  | bytes (value : List UInt8)
  | uuid (value : Uuid)
  | instant (value : Instant)
  | date (value : CalendarDate)
  | json (value : Json)
  deriving Repr

/-! ## Descriptions of JSON values -/

/-- Doubles in descriptions: positional from `0.0001` to sixteen whole digits, an exponent without a
plus sign otherwise. -/
def describedDouble : DoubleLayout := ⟨-4, 15, true, false, .up⟩

/-- Items with a comma and a space between them. -/
def listed : List (List Char) → List Char
  | [] => []
  | [item] => item
  | item :: rest => item ++ ',' :: ' ' :: listed rest

namespace Json

/-- A string in quotes that tells all its characters apart. -/
def quotedText (value : String) : List Char := (Text.quoted value).toList

mutual

/-- A value with the names of its kinds. -/
def describe : Json → List Char
  | .null => "Null".toList
  | .bool value => if value then "Bool(true)".toList else "Bool(false)".toList
  | .number value => "Number(".toList ++ value.text ++ [')']
  | .string value => "String(".toList ++ quotedText value ++ [')']
  | .array items => "Array [".toList ++ listed (describeItems items) ++ [']']
  | .object fields => "Object \x7b".toList ++ listed (describeFields fields) ++ ['}']

/-- The descriptions of items. -/
def describeItems : List Json → List (List Char)
  | [] => []
  | item :: rest => describe item :: describeItems rest

/-- The names and descriptions of fields. -/
def describeFields : List (String × Json) → List (List Char)
  | [] => []
  | (name, value) :: rest =>
    (quotedText name ++ ':' :: ' ' :: describe value) :: describeFields rest

end

end Json

/-! ## Stored values -/

/-- The description of a double. -/
def Double.describe : Double → List Char
  | finite value => describedDouble.finite value
  | infinite negative => if negative then "-inf".toList else "inf".toList
  | nan => "NaN".toList

namespace StoredValue

/-- Whether the value is null. -/
def isNull : StoredValue → Bool
  | null => true
  | _ => false

theorem isNull_iff {value : StoredValue} : value.isNull = true ↔ value = .null := by
  cases value <;> simp [isNull]

/-- The name of the kind of a value. -/
def kind : StoredValue → String
  | null => "null"
  | bool _ => "boolean"
  | integer _ => "integer"
  | double _ => "float"
  | string _ => "string"
  | bytes _ => "bytes"
  | uuid _ => "uuid"
  | instant _ => "datetime"
  | date _ => "date"
  | json _ => "json"

/-- The value as JSON. A double that is not finite is null, bytes are an array of numbers, and what
JSON has no kind for is its text. -/
def toJson : StoredValue → Json
  | null => .null
  | bool value => .bool value
  | integer value => .number (.ofInt64 value)
  | double (.finite value) => .number (.double value)
  | double _ => .null
  | string value => .string value
  | bytes value => .array (value.map fun byte => .number (.ofUInt8 byte))
  | uuid value => .string value.toText
  | instant value => .string value.toIsoText
  | date value => .string value.toText
  | json value => value

/-- The name of a value's kind with the value in parentheses. -/
def describe (value : StoredValue) : String :=
  let inside (name : String) (content : List Char) : String :=
    String.ofList (name.toList ++ '(' :: content ++ [')'])
  match value with
  | null => "Null"
  | bool value => inside "Bool" (if value then "true".toList else "false".toList)
  | integer value => inside "Int64" (Text.signedDigits value.toInt)
  | double value => inside "Float64" value.describe
  | string value => inside "String" (Json.quotedText value)
  | bytes value =>
    inside "Bytes" ('[' :: listed (value.map fun byte => Text.digits byte.toNat) ++ [']'])
  | uuid value => inside "Uuid" value.toText.toList
  | instant value => inside "DateTime" value.toFullText.toList
  | date value => inside "Date" value.toText.toList
  | json value => inside "Json" value.describe

end StoredValue

end RecordStore
