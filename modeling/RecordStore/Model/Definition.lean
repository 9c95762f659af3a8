import RecordStore.Model.PropertyType

/-!
# Model definitions

A model has a name and properties in the order of their declaration, one of which is the primary key.
A definition that exists is consistent: its name is not empty, no two properties share a name, and
the key is one of them.
-/

namespace RecordStore

/-- A property of a model. -/
structure Property where
  name : String
  type : PropertyType
  required : Bool
  deriving DecidableEq, Repr

/-- The definition of a model. -/
structure ModelDefinition where
  name : String
  properties : List Property
  /-- The position of the primary key. -/
  keyIndex : Fin properties.length
  name_ne : name ≠ ""
  nodup : (properties.map Property.name).Nodup
  deriving DecidableEq, Repr

/-- Why something is no model definition, or no instance of one. -/
inductive DefinitionFault where
  | emptyName
  | repeatedProperty (property model : String)
  | unknownKey (key model : String)
  | noKey (model : String)
  | notAnObject (model : String) (found : Json)
  deriving Repr

namespace DefinitionFault

/-- The message of a fault. -/
def message : DefinitionFault → String
  | emptyName => "Model name cannot be empty"
  | repeatedProperty property model =>
    "Property '" ++ property ++ "' is declared more than once on '" ++ model ++ "'"
  | unknownKey key model => "Primary key '" ++ key ++ "' is not a property of '" ++ model ++ "'"
  | noKey model => "Model '" ++ model ++ "' has no primary key"
  | notAnObject model found =>
    "Instance of '" ++ model ++ "' must serialize to an object, got " ++ found.toText

end DefinitionFault

/-- The first name that an earlier one equals, the names in `seen` counting as earlier. -/
def firstRepeated (seen : List String) : List String → Option String
  | [] => none
  | name :: rest => if name ∈ seen then some name else firstRepeated (name :: seen) rest

/-- Without a repeated name, the names differ from each other and from those seen before. -/
theorem nodup_of_firstRepeated_eq_none {seen names : List String}
    (h : firstRepeated seen names = none) : names.Nodup ∧ ∀ name ∈ names, name ∉ seen := by
  induction names generalizing seen with
  | nil => simp
  | cons name rest ih =>
    by_cases mem : name ∈ seen
    · simp [firstRepeated, mem] at h
    · simp only [firstRepeated, mem, if_false] at h
      obtain ⟨nodup, apart⟩ := ih h
      refine ⟨List.nodup_cons.2 ⟨fun other => apart name other List.mem_cons_self, nodup⟩, ?_⟩
      intro other member
      rcases List.mem_cons.1 member with rfl | member
      · exact mem
      · exact fun other_mem => apart other member (List.mem_cons_of_mem _ other_mem)

namespace ModelDefinition

/-- The definition with a name, a key and properties, if they are consistent. -/
def create (name key : String) (properties : List Property) :
    Except DefinitionFault ModelDefinition :=
  if name_ne : name = "" then .error .emptyName
  else match repeated : firstRepeated [] (properties.map Property.name) with
    | some property => .error (.repeatedProperty property name)
    | none =>
      match properties.findFinIdx? (·.name == key) with
      | none => .error (.unknownKey key name)
      | some keyIndex =>
        .ok ⟨name, properties, keyIndex, name_ne, (nodup_of_firstRepeated_eq_none repeated).1⟩

/-- The primary key. -/
def key (definition : ModelDefinition) : Property := definition.properties[definition.keyIndex]

/-- The names of the properties in the order of their declaration. -/
def columns (definition : ModelDefinition) : List String := definition.properties.map (·.name)

/-- The property of a name. -/
def property? (definition : ModelDefinition) (name : String) : Option Property :=
  definition.properties.find? (·.name == name)

end ModelDefinition

/-! ## Building a definition step by step -/

/-- A declaration of one property. -/
inductive Declaration where
  | primaryKey (name : String) (type : PropertyType)
  | required (name : String) (type : PropertyType)
  | optional (name : String) (type : PropertyType)
  deriving DecidableEq, Repr

namespace Declaration

/-- The declared property. A primary key is required. -/
def property : Declaration → Property
  | primaryKey name type => ⟨name, type, true⟩
  | required name type => ⟨name, type, true⟩
  | optional name type => ⟨name, type, false⟩

/-- The name of the key that the declaration sets. -/
def key? : Declaration → Option String
  | primaryKey name _ => some name
  | _ => none

end Declaration

/-- A definition in the making. -/
structure DefinitionBuilder where
  name : String
  /-- The name of the primary key that was declared last. -/
  key : Option String := none
  properties : List Property := []

namespace DefinitionBuilder

/-- The builder after one more declaration. -/
def declare (builder : DefinitionBuilder) (declaration : Declaration) : DefinitionBuilder :=
  { builder with
    key := declaration.key?.or builder.key
    properties := builder.properties ++ [declaration.property] }

/-- The definition, if it has a primary key and is consistent. -/
def build (builder : DefinitionBuilder) : Except DefinitionFault ModelDefinition :=
  match builder.key with
  | none => .error (.noKey builder.name)
  | some key => ModelDefinition.create builder.name key builder.properties

end DefinitionBuilder

/-- The definition of a model by its declarations, one after the other. -/
def ModelDefinition.ofDeclarations (name : String) (declarations : List Declaration) :
    Except DefinitionFault ModelDefinition :=
  (declarations.foldl DefinitionBuilder.declare { name }).build

end RecordStore
