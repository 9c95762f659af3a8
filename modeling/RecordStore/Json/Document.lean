import RecordStore.Json.Printer
import RecordStore.Text.Quoted

/-!
# Structured documents

A search or a model definition comes as a JSON document of a known structure. A structure is an object
with named fields, of which unknown ones are ignored, or an array of the fields in their order. The
fields of an object are read in the order of their names and the first that is wrong is reported;
whether one is missing is asked only after that.
-/

namespace RecordStore

/-- What a document holds where something else is expected. -/
inductive Found where
  | null
  | bool (value : Bool)
  | number (value : JsonNumber)
  | string (value : String)
  | sequence
  | map
  | unitVariant
  deriving DecidableEq, Repr

/-- Why a document does not have the structure that is expected. -/
inductive DocumentFault where
  /-- A required field is not there. -/
  | missingField (name : String)
  /-- Something of the wrong kind. -/
  | wrongKind (found : Found) (expected : String)
  /-- Something of the right kind with an impossible value. -/
  | wrongValue (found : Found) (expected : String)
  /-- A name that is none of the known ones. -/
  | unknownName (name : String) (known : List String)
  /-- An array that ends before a required element. -/
  | tooShort (length : Nat) (expected : String) (size : Nat)
  /-- An array with more elements than the structure has fields. -/
  | tooLong (length : Nat)
  /-- A token of a query that has none of the forms of a token. -/
  | noTokenForm
  deriving DecidableEq, Repr

namespace Found

/-- What a value is when it is not what is expected. -/
def ofJson : Json → Found
  | .null => .null
  | .bool value => .bool value
  | .number value => .number value
  | .string value => .string value
  | .array _ => .sequence
  | .object _ => .map

/-- The words for what was found. -/
def text : Found → String
  | null => "null"
  | bool value => if value then "boolean `true`" else "boolean `false`"
  | number (.integer value range) =>
    "integer `" ++ String.ofList (JsonNumber.integer value range).text ++ "`"
  | number (.double value) =>
    "floating point `" ++ String.ofList (JsonNumber.double value).text ++ "`"
  | string value => "string " ++ Text.quoted value
  | sequence => "sequence"
  | map => "map"
  | unitVariant => "unit variant"

end Found

namespace DocumentFault

/-- The message of a fault. -/
def message : DocumentFault → String
  | missingField name => "missing field `" ++ name ++ "`"
  | wrongKind found expected => "invalid type: " ++ found.text ++ ", expected " ++ expected
  | wrongValue found expected => "invalid value: " ++ found.text ++ ", expected " ++ expected
  | unknownName name known =>
    "unknown variant `" ++ name ++ "`, expected one of "
      ++ ", ".intercalate (known.map fun known => "`" ++ known ++ "`")
  | tooShort length expected size =>
    "invalid length " ++ String.ofList (Text.digits length) ++ ", expected " ++ expected ++ " with "
      ++ String.ofList (Text.digits size) ++ " elements"
  | tooLong length =>
    "invalid length " ++ String.ofList (Text.digits length) ++ ", expected fewer elements in array"
  | noTokenForm => "data did not match any variant of untagged enum TokenWire"

end DocumentFault

/-! ## Reading parts of a document -/

/-- A part of a document as read, or the first fault in it. -/
abbrev Reading (α : Type) := Except DocumentFault α

namespace Document

variable {α : Type}

/-- The fault of a value of the wrong kind. -/
def unexpected (found : Json) (expected : String) : Reading α :=
  .error (.wrongKind (.ofJson found) expected)

/-- Reads a string. -/
def string : Json → Reading String
  | .string value => .ok value
  | other => unexpected other "a string"

/-- Reads a truth value. -/
def bool : Json → Reading Bool
  | .bool value => .ok value
  | other => unexpected other "a boolean"

/-- Reads a whole number of 64 bits without sign. -/
def word : Json → Reading UInt64
  | .number (.integer value range) =>
    if 0 ≤ value then .ok (UInt64.ofNat value.toNat)
    else .error (.wrongValue (.number (.integer value range)) "u64")
  | other => unexpected other "u64"

/-- Reads a value that null stands in for when it is absent. -/
def nullable (read : Json → Reading α) : Json → Reading (Option α)
  | .null => .ok none
  | value => some <$> read value

/-- Reads the items of an array. -/
def list (read : Json → Reading α) : Json → Reading (List α)
  | .array items => items.mapM read
  | other => unexpected other "a sequence"

/-- Reads a field if the object has it. -/
def field? (name : String) (read : Json → Reading α) (fields : List (String × Json)) :
    Reading (Option α) :=
  match Json.field? name fields with
  | some value => some <$> read value
  | none => .ok none

/-- The value of a required field. -/
def required (name : String) : Option α → Reading α
  | some value => .ok value
  | none => .error (.missingField name)

/-- Reads a required element of a structure of the given size that is written as an array. -/
def element (items : List Json) (index : Nat) (read : Json → Reading α) (expected : String)
    (size : Nat) : Reading α :=
  match items[index]? with
  | some item => read item
  | none => .error (.tooShort index expected size)

/-- Reads an element that may be missing at the end of the array. -/
def element? (items : List Json) (index : Nat) (read : Json → Reading α) : Reading (Option α) :=
  match items[index]? with
  | some item => some <$> read item
  | none => .ok none

/-- Refuses elements beyond the fields of the structure. -/
def noMore (items : List Json) (size : Nat) : Reading Unit :=
  if size < items.length then .error (.tooLong items.length) else .ok ()

end Document

end RecordStore
