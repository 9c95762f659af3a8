import RecordStore.Model.Definition

/-!
# Model definitions as documents

A document names the model, its primary key and its properties. Reading one gives a consistent
definition or tells what is wrong; writing a definition gives the document it is read from.
-/

namespace RecordStore

/-- Why a document gives no definition. -/
inductive DefinitionDocumentFault where
  /-- The document does not have the structure of a definition. -/
  | malformed (fault : DocumentFault)
  /-- The document has that structure and is not consistent. -/
  | inconsistent (fault : DefinitionFault)
  deriving Repr

/-- The message of a fault. -/
def DefinitionDocumentFault.message : DefinitionDocumentFault → String
  | malformed fault => fault.message
  | inconsistent fault => "Invalid model definition: " ++ fault.message

namespace Property

/-- Reads a property of a definition. -/
def ofJson : Json → Reading Property
  | .object fields => do
    let name ← Document.field? "name" Document.string fields
    let type ← Document.field? "property_type" PropertyType.ofJson fields
    let required ← Document.field? "required" Document.bool fields
    return ⟨← Document.required "name" name, ← Document.required "property_type" type,
      ← Document.required "required" required⟩
  | .array items => do
    let what := "struct PropertyDefinition"
    let name ← Document.element items 0 Document.string what 3
    let type ← Document.element items 1 PropertyType.ofJson what 3
    let required ← Document.element items 2 Document.bool what 3
    Document.noMore items 3
    return ⟨name, type, required⟩
  | other => Document.unexpected other "struct PropertyDefinition"

/-- The property as part of a document. -/
def toJson (property : Property) : Json :=
  .object [("name", .string property.name), ("property_type", property.type.toJson),
    ("required", .bool property.required)]

end Property

/-- What a document says about a model. -/
structure DefinitionDocument where
  name : String
  key : String
  properties : List Property
  deriving DecidableEq, Repr

namespace DefinitionDocument

/-- Reads the structure of a definition. -/
def ofJson : Json → Reading DefinitionDocument
  | .object fields => do
    let name ← Document.field? "name" Document.string fields
    let key ← Document.field? "primary_key" Document.string fields
    let properties ← Document.field? "properties" (Document.list Property.ofJson) fields
    return ⟨← Document.required "name" name, ← Document.required "primary_key" key,
      ← Document.required "properties" properties⟩
  | .array items => do
    let what := "struct ModelDefinitionWire"
    let name ← Document.element items 0 Document.string what 3
    let key ← Document.element items 1 Document.string what 3
    let properties ← Document.element items 2 (Document.list Property.ofJson) what 3
    Document.noMore items 3
    return ⟨name, key, properties⟩
  | other => Document.unexpected other "struct ModelDefinitionWire"

end DefinitionDocument

namespace ModelDefinition

/-- Reads a definition from a document. -/
def ofJson (json : Json) : Except DefinitionDocumentFault ModelDefinition := do
  let document ← (DefinitionDocument.ofJson json).mapError .malformed
  (create document.name document.key document.properties).mapError .inconsistent

/-- The document of a definition. -/
def toJson (definition : ModelDefinition) : Json :=
  .object [("name", .string definition.name), ("primary_key", .string definition.key.name),
    ("properties", .array (definition.properties.map Property.toJson))]

end ModelDefinition

end RecordStore
