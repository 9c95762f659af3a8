import RecordStore.Error

/-!
# Records and instances

A record is the plain form of one object of a model: a JSON value for each property name. An instance
belongs to a model and produces its record, or fails to.
-/

namespace RecordStore

/-- The fields of a record in the order of their names. -/
abbrev Record := List (String × Json)

namespace Record

/-- The value of a property, which is null when the record does not have it. -/
def value (record : Record) (name : String) : Json := (Json.field? name record).getD .null

/-- The record as one JSON value. -/
def toJson (record : Record) : Json := .object record

end Record

/-- One object of a model. -/
structure ModelInstance where
  model : ModelDefinition
  /-- The record of the object, or why it cannot be produced. -/
  record : Except Error Record

namespace ModelInstance

/-- The instance of a model with the fields of a JSON object. -/
def ofJson (model : ModelDefinition) : Json → Except Error ModelInstance
  | .object fields => .ok ⟨model, .ok fields⟩
  | other => .error (.invalidDefinition (.notAnObject model.name other))

/-- The value of the primary key, which must be there and not be null. -/
def primaryKey (object : ModelInstance) : Except Error Json := do
  match (← object.record).value object.model.key.name with
  | .null => throw (.missingPrimaryKey object.model.key.name)
  | key => return key

end ModelInstance

end RecordStore
