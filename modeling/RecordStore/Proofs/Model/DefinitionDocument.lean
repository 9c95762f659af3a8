import RecordStore.Model.DefinitionDocument
import RecordStore.Proofs.Json.Document
import RecordStore.Proofs.Model.Definition

/-!
# Definitions and their documents

The documents of a definition are given by their forms (`PropertyType.Written`, `Property.Written`,
`DefinitionDocument.Written`), and reading accepts these and no others. So a document is read as a
definition exactly if its parts are consistent, and a definition comes back from the document that it
is written to. The main statement is about all the ways to a definition
(`ModelDefinition.consistent_by_every_route`).
-/

namespace RecordStore

/-! ## Types -/

namespace PropertyType

/-- The documents of a type: the name of a built-in type, by itself or as an object with nothing in it,
and an object that names a custom type. -/
inductive Written : Json → PropertyType → Prop
  | named {name : String} {type : PropertyType} : (name, type) ∈ builtin → Written (.string name) type
  | tagged {name : String} {type : PropertyType} :
    (name, type) ∈ builtin → Written (.object [(name, .null)]) type
  | custom (name : String) : Written (.object [("Custom", .string name)]) (.custom name)

theorem lookup_builtin : ∀ entry ∈ builtin, builtin.lookup entry.1 = some entry.2 := by decide

theorem lookup_builtin_eq_some_iff {name : String} {type : PropertyType} :
    builtin.lookup name = some type ↔ (name, type) ∈ builtin := by
  refine ⟨fun found => ?_, lookup_builtin (name, type)⟩
  obtain ⟨before, after, split, -⟩ := List.lookup_eq_some_iff.1 found
  exact split ▸ List.mem_append_right _ List.mem_cons_self

theorem ofTagged_eq_ok_iff {tag : String} {value : Json} {type : PropertyType} :
    ofTagged tag value = .ok type ↔
      ((tag, type) ∈ builtin ∧ value = .null) ∨
        tag = "Custom" ∧ ∃ name, value = .string name ∧ custom name = type := by
  rw [← lookup_builtin_eq_some_iff, ofTagged]
  cases found : builtin.lookup tag with
  | some known =>
    have other : tag ≠ "Custom" := by
      rintro rfl
      cases found
    cases value <;> simp [Document.unexpected, other]
  | none =>
    by_cases isCustom : tag = "Custom"
    · simp [isCustom, map_eq_ok_iff, Document.string_eq_ok_iff]
    · simp [isCustom]

/-- A type is read from its documents. -/
theorem ofJson_eq_ok_iff {json : Json} {type : PropertyType} :
    ofJson json = .ok type ↔ Written json type := by
  constructor
  · intro read
    match json with
    | .string tag =>
      rw [ofJson] at read
      split at read
      · cases read
      · next named =>
        obtain ⟨known, -⟩ | ⟨isCustom, -⟩ := ofTagged_eq_ok_iff.1 read
        · exact .named known
        · exact absurd isCustom named
    | .object [(tag, value)] =>
      obtain ⟨known, rfl⟩ | ⟨rfl, name, rfl, rfl⟩ := ofTagged_eq_ok_iff.1 read
      · exact .tagged known
      · exact .custom name
    | .object [] | .object (_ :: _ :: _) => cases read
    | .null | .bool _ | .number _ | .array _ => cases read
  · intro written
    cases written with
    | @named name type known =>
      have other : name ≠ "Custom" := by
        rintro rfl
        cases lookup_builtin _ known
      rw [ofJson, if_neg other]
      exact ofTagged_eq_ok_iff.2 (.inl ⟨known, rfl⟩)
    | tagged known => exact ofTagged_eq_ok_iff.2 (.inl ⟨known, rfl⟩)
    | custom name => exact ofTagged_eq_ok_iff.2 (.inr ⟨rfl, name, rfl, rfl⟩)

/-- A type is written as one of its documents. A custom type keeps apart from the built-in type of the
same name. -/
theorem written_toJson (type : PropertyType) : Written type.toJson type := by
  cases type with
  | custom name => exact .custom name
  | _ => exact .named (by decide)

end PropertyType

/-! ## Properties -/

namespace Property

/-- The documents of a property: an object with its fields, or an array of their values. -/
inductive Written : Json → Property → Prop
  | fields {fields : List (String × Json)} {name : String} {json : Json} {type : PropertyType}
    {required : Bool} :
    Json.field? "name" fields = some (.string name) →
    Json.field? "property_type" fields = some json → PropertyType.Written json type →
    Json.field? "required" fields = some (.bool required) →
    Written (.object fields) ⟨name, type, required⟩
  | items {name : String} {json : Json} {type : PropertyType} {required : Bool} :
    PropertyType.Written json type →
    Written (.array [.string name, json, .bool required]) ⟨name, type, required⟩

/-- A property is read from its documents. -/
theorem ofJson_eq_ok_iff {json : Json} {property : Property} :
    ofJson json = .ok property ↔ Written json property := by
  constructor
  · intro read
    match json with
    | .object fields =>
      obtain ⟨name, type, required, ⟨nameJson, hasName, named⟩, ⟨typeJson, hasType, typed⟩,
        ⟨requiredJson, hasRequired, told⟩, rfl⟩ := Document.fields_eq_ok_iff.1 read
      rw [Document.string_eq_ok_iff.1 named] at hasName
      rw [Document.bool_eq_ok_iff.1 told] at hasRequired
      exact .fields hasName hasType (PropertyType.ofJson_eq_ok_iff.1 typed) hasRequired
    | .array items =>
      obtain ⟨nameJson, typeJson, requiredJson, rfl, name, type, required, named, typed, told, rfl⟩ :=
        Document.elements_eq_ok_iff.1 read
      rw [Document.string_eq_ok_iff.1 named, Document.bool_eq_ok_iff.1 told]
      exact .items (PropertyType.ofJson_eq_ok_iff.1 typed)
    | .null | .bool _ | .number _ | .string _ => cases read
  · intro written
    cases written with
    | fields hasName hasType typed hasRequired =>
      exact Document.fields_eq_ok_iff.2 ⟨_, _, _, ⟨_, hasName, rfl⟩,
        ⟨_, hasType, PropertyType.ofJson_eq_ok_iff.2 typed⟩, ⟨_, hasRequired, rfl⟩, rfl⟩
    | items typed =>
      exact Document.elements_eq_ok_iff.2 ⟨_, _, _, rfl, _, _, _, rfl,
        PropertyType.ofJson_eq_ok_iff.2 typed, rfl, rfl⟩

theorem written_toJson (property : Property) : Written property.toJson property :=
  .fields rfl rfl (PropertyType.written_toJson _) rfl

end Property

/-! ## Definitions -/

namespace DefinitionDocument

/-- The documents that have the structure of a definition: an object with its fields, or an array of
their values. -/
inductive Written : Json → DefinitionDocument → Prop
  | fields {fields : List (String × Json)} {name key : String} {items : List Json}
    {properties : List Property} :
    Json.field? "name" fields = some (.string name) →
    Json.field? "primary_key" fields = some (.string key) →
    Json.field? "properties" fields = some (.array items) →
    List.Forall₂ Property.Written items properties →
    Written (.object fields) ⟨name, key, properties⟩
  | items {name key : String} {items : List Json} {properties : List Property} :
    List.Forall₂ Property.Written items properties →
    Written (.array [.string name, .string key, .array items]) ⟨name, key, properties⟩

theorem list_eq_ok_iff {json : Json} {properties : List Property} :
    Document.list Property.ofJson json = .ok properties ↔
      ∃ items, json = .array items ∧ List.Forall₂ Property.Written items properties := by
  simp only [Document.list_eq_ok_iff, Property.ofJson_eq_ok_iff]

/-- The structure of a definition is read from its documents. -/
theorem ofJson_eq_ok_iff {json : Json} {document : DefinitionDocument} :
    ofJson json = .ok document ↔ Written json document := by
  constructor
  · intro read
    match json with
    | .object fields =>
      obtain ⟨name, key, properties, ⟨nameJson, hasName, named⟩, ⟨keyJson, hasKey, keyed⟩,
        ⟨propertiesJson, hasProperties, listed⟩, rfl⟩ := Document.fields_eq_ok_iff.1 read
      obtain ⟨items, rfl, each⟩ := list_eq_ok_iff.1 listed
      rw [Document.string_eq_ok_iff.1 named] at hasName
      rw [Document.string_eq_ok_iff.1 keyed] at hasKey
      exact .fields hasName hasKey hasProperties each
    | .array items =>
      obtain ⟨nameJson, keyJson, propertiesJson, rfl, name, key, properties, named, keyed, listed, rfl⟩ :=
        Document.elements_eq_ok_iff.1 read
      obtain ⟨items, rfl, each⟩ := list_eq_ok_iff.1 listed
      rw [Document.string_eq_ok_iff.1 named, Document.string_eq_ok_iff.1 keyed]
      exact .items each
    | .null | .bool _ | .number _ | .string _ => cases read
  · intro written
    cases written with
    | fields hasName hasKey hasProperties each =>
      exact Document.fields_eq_ok_iff.2 ⟨_, _, _, ⟨_, hasName, rfl⟩, ⟨_, hasKey, rfl⟩,
        ⟨_, hasProperties, list_eq_ok_iff.2 ⟨_, rfl, each⟩⟩, rfl⟩
    | items each =>
      exact Document.elements_eq_ok_iff.2 ⟨_, _, _, rfl, _, _, _, rfl, rfl,
        list_eq_ok_iff.2 ⟨_, rfl, each⟩, rfl⟩

end DefinitionDocument

namespace ModelDefinition

/-- A document of the structure of a definition is read as what is made of its parts. -/
theorem ofJson_of_written {json : Json} {document : DefinitionDocument}
    (written : document.Written json) :
    ofJson json =
      (create document.name document.key document.properties).mapError .inconsistent := by
  rw [ofJson, DefinitionDocument.ofJson_eq_ok_iff.2 written]
  rfl

/-- A definition is read from the documents whose parts make it, and from no others. -/
theorem ofJson_eq_ok_iff {json : Json} {definition : ModelDefinition} :
    ofJson json = .ok definition ↔
      ∃ document, DefinitionDocument.Written json document ∧
        create document.name document.key document.properties = .ok definition := by
  rw [ofJson, bind_eq_ok_iff]
  simp only [mapError_eq_ok_iff, DefinitionDocument.ofJson_eq_ok_iff]

theorem written_toJson (definition : ModelDefinition) :
    DefinitionDocument.Written definition.toJson
      ⟨definition.name, definition.key.name, definition.properties⟩ :=
  .fields rfl rfl rfl
    (List.forall₂_map_left_iff.2 (List.forall₂_same.2 fun property _ => property.written_toJson))

/-- A definition comes back from its document. -/
theorem ofJson_toJson (definition : ModelDefinition) : ofJson definition.toJson = .ok definition :=
  ofJson_eq_ok_iff.2 ⟨_, definition.written_toJson, create_eq_ok_iff.2 ⟨rfl, rfl, rfl⟩⟩

/-- Whichever way a definition is obtained, it is consistent. A name, a key and properties make one
exactly if they are consistent, and then it has this name, this key, these properties as its columns,
and under the name of a property no other. Declarations one after the other give what is made of all
their properties and the last key among them, and nothing without a key. A document of the structure of
a definition gives what is made of its parts, no other document gives a definition, and every definition
comes back from the document that it is written to. -/
theorem consistent_by_every_route (name key : String) (properties : List Property) :
    ((∃ definition, create name key properties = .ok definition) ↔
      Consistent name key properties) ∧
    (∀ definition, create name key properties = .ok definition →
      definition.name = name ∧ definition.key.name = key ∧ definition.properties = properties ∧
      definition.columns = properties.map Property.name ∧
      ∀ sought property, definition.property? sought = some property ↔
        property ∈ properties ∧ property.name = sought ∧
          ∀ other ∈ properties, other.name = sought → other = property) ∧
    (∀ declarations : List Declaration, ofDeclarations name declarations =
      match (declarations.filterMap Declaration.key?).getLast? with
      | none => .error (.noKey name)
      | some last => create name last (declarations.map Declaration.property)) ∧
    (∀ json, DefinitionDocument.Written json ⟨name, key, properties⟩ →
      ofJson json = (create name key properties).mapError .inconsistent) ∧
    (∀ json definition, ofJson json = .ok definition →
      ∃ document, DefinitionDocument.Written json document ∧
        create document.name document.key document.properties = .ok definition) ∧
    ∀ definition, ofJson definition.toJson = .ok definition := by
  refine ⟨exists_create_iff, fun definition created => ?_, ofDeclarations_eq name,
    fun json written => ofJson_of_written written, fun json definition read => ofJson_eq_ok_iff.1 read,
    ofJson_toJson⟩
  obtain ⟨rfl, rfl, rfl⟩ := create_eq_ok_iff.1 created
  refine ⟨rfl, rfl, rfl, rfl, fun sought property => ?_⟩
  rw [definition.property?_eq_some_iff]
  refine and_congr_right fun member => (and_iff_left_of_imp ?_).symm
  rintro rfl other also same
  exact definition.eq_of_name_eq also member same

/-- A key of a custom type that is named as a built-in one, in a document with a field of its own. -/
theorem consistent_by_every_route_custom :
    let key : Property := ⟨"text", .custom "Text", false⟩
    let json : Json := .object [("comment", .null), ("name", .string "Note"),
      ("primary_key", .string "text"),
      ("properties", .array [.array [.string "id", .object [("UniqueId", .null)], .bool true],
        key.toJson])]
    ∃ definition, ofJson json = .ok definition ∧ definition.key.name = "text" ∧
      definition.columns = ["id", "text"] ∧ definition.property? "text" = some key := by
  intro key json
  have written : DefinitionDocument.Written json ⟨"Note", "text", [⟨"id", .uniqueId, true⟩, key]⟩ :=
    .fields rfl rfl rfl (.cons (.items (.tagged (by decide))) (.cons key.written_toJson .nil))
  obtain ⟨exists_iff, holds, -, read, -, -⟩ :=
    consistent_by_every_route "Note" "text" [⟨"id", .uniqueId, true⟩, key]
  obtain ⟨definition, created⟩ := exists_iff.2 ⟨by decide, by decide, by decide⟩
  obtain ⟨-, keyed, -, columns, found⟩ := holds definition created
  refine ⟨definition, (read json written).trans (by rw [created]; rfl), keyed, columns, ?_⟩
  exact (found "text" key).2 ⟨by simp, rfl, by simp [key]⟩

end ModelDefinition

end RecordStore
