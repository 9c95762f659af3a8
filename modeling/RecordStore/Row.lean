import RecordStore.Codec.Registry
import RecordStore.Model.Instance

/-!
# Rows

A row holds a stored value for each column. Records become rows and rows become records property by
property, each by the codec of its type; a missing property or column counts as null.
-/

namespace RecordStore

/-- The stored values of a row by column. -/
abbrev StoredRow := List (String × StoredValue)

/-- The value of a column, which is null when the row does not have it. -/
def StoredRow.value (row : StoredRow) (column : String) : StoredValue :=
  (row.lookup column).getD .null

/-- The record with the given fields, in the order of their names. -/
def Record.ofFields (fields : List (String × Json)) : Record :=
  fields.foldl (fun record field => Json.insertField field.1 field.2 record) []

namespace CodecRegistry

/-- The stored values of a record in the order of the properties. -/
def encodeValues (registry : CodecRegistry) (definition : ModelDefinition) (record : Record) :
    List StoredValue :=
  definition.properties.map fun property => registry.encode property.type (record.value property.name)

/-- The row of a record. -/
def encodeRecord (registry : CodecRegistry) (definition : ModelDefinition) (record : Record) :
    StoredRow :=
  definition.columns.zip (registry.encodeValues definition record)

/-- The row of a record; no record has an empty row. -/
def encodeRow (registry : CodecRegistry) (definition : ModelDefinition) :
    Option Record → StoredRow
  | none => []
  | some record => registry.encodeRecord definition record

/-- The record of a row, or the first failure in the order of the properties. -/
def decodeRecord (registry : CodecRegistry) (definition : ModelDefinition) (row : StoredRow) :
    Except Error Record := do
  let fields ← definition.properties.mapM fun property => do
    return (property.name, ← registry.decode property.type (row.value property.name))
  return Record.ofFields fields

/-- The record of a row; no row has an empty record. -/
def decodeRow (registry : CodecRegistry) (definition : ModelDefinition) :
    Option StoredRow → Except Error Record
  | none => .ok []
  | some row => registry.decodeRecord definition row

/-- The stored value of a primary key. -/
def encodeKey (registry : CodecRegistry) (definition : ModelDefinition) (key : Json) :
    StoredValue :=
  registry.encode definition.key.type key

/-- The stored value that a column is compared with. A column that the model does not declare has no
type, and the kind of the value decides. -/
def encodeProperty (registry : CodecRegistry) (definition : ModelDefinition) (name : String)
    (value : Json) : StoredValue :=
  match definition.property? name with
  | some property => registry.encode property.type value
  | none => Codec.encodeByKind value

end CodecRegistry

end RecordStore
