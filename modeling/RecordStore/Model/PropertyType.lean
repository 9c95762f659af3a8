import RecordStore.Json.Document

/-!
# Property types

The semantic type of a property, independent of how its values are stored.
-/

namespace RecordStore

/-- The semantic type of a property. -/
inductive PropertyType where
  | uniqueId
  | text
  | bigText
  | integer
  | number
  | boolean
  | date
  | datetime
  | object
  | array
  | modelReference
  | email
  /-- A type that only a registry given by the user knows. -/
  | custom (name : String)
  deriving DecidableEq, Repr

namespace PropertyType

/-- The built-in types with their names. -/
def builtin : List (String × PropertyType) :=
  [("UniqueId", uniqueId), ("Text", text), ("BigText", bigText), ("Integer", integer),
    ("Number", number), ("Boolean", boolean), ("Date", date), ("Datetime", datetime),
    ("Object", object), ("Array", array), ("ModelReference", modelReference), ("Email", email)]

/-- The name that is shown for a type; a custom type shows its own. -/
def name : PropertyType → String
  | uniqueId => "UniqueId"
  | text => "Text"
  | bigText => "BigText"
  | integer => "Integer"
  | number => "Number"
  | boolean => "Boolean"
  | date => "Date"
  | datetime => "Datetime"
  | object => "Object"
  | array => "Array"
  | modelReference => "ModelReference"
  | email => "Email"
  | custom name => name

/-- The type as it stands in a document: a name, or an object with the one field `Custom`. -/
def toJson : PropertyType → Json
  | custom name => .object [("Custom", .string name)]
  | type => .string type.name

/-- The names that a document may use. -/
def documentNames : List String := builtin.map (·.1) ++ ["Custom"]

/-- Reads a type from its name and the value that comes with it in an object. -/
def ofTagged (tag : String) (value : Json) : Reading PropertyType :=
  match builtin.lookup tag with
  | some type =>
    match value with
    | .null => .ok type
    | other => Document.unexpected other "unit"
  | none =>
    if tag = "Custom" then custom <$> Document.string value
    else .error (.unknownName tag documentNames)

/-- Reads a type from a document. -/
def ofJson : Json → Reading PropertyType
  | .string tag =>
    if tag = "Custom" then .error (.wrongKind .unitVariant "newtype variant")
    else ofTagged tag .null
  | .object [(tag, value)] => ofTagged tag value
  | .object _ => .error (.wrongValue .map "map with a single key")
  | other => Document.unexpected other "string or map"

end PropertyType

end RecordStore
