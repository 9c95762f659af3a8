import Mathlib.Data.List.Nodup
import RecordStore.Model.Definition

/-!
# Consistent definitions

A definition is made of a name, a key and properties exactly if they are consistent, and then it is the
only definition that has them (`ModelDefinition.create_eq_ok_iff`). A run of declarations collects the
properties in order and the last key (`DefinitionBuilder.foldl_declare`), so it gives the definition
that is made of them.
-/

namespace RecordStore

theorem firstRepeated_eq_none_iff {seen names : List String} :
    firstRepeated seen names = none ↔ names.Nodup ∧ ∀ name ∈ names, name ∉ seen := by
  refine ⟨nodup_of_firstRepeated_eq_none, ?_⟩
  induction names generalizing seen with
  | nil => exact fun _ => rfl
  | cons name rest ih =>
    rintro ⟨nodup, apart⟩
    obtain ⟨fresh, nodup⟩ := List.nodup_cons.1 nodup
    rw [firstRepeated, if_neg (apart name List.mem_cons_self)]
    refine ih ⟨nodup, fun other member => ?_⟩
    rw [List.mem_cons, not_or]
    exact ⟨fun same => fresh (same ▸ member), apart other (List.mem_cons_of_mem _ member)⟩

namespace ModelDefinition

/-! ## One definition -/

/-- A name, a key and properties that make a definition. -/
structure Consistent (name key : String) (properties : List Property) : Prop where
  named : name ≠ ""
  distinct : (properties.map Property.name).Nodup
  keyed : key ∈ properties.map Property.name

section Parts

variable (definition : ModelDefinition)

theorem consistent :
    Consistent definition.name definition.key.name definition.properties :=
  ⟨definition.name_ne, definition.nodup, List.mem_map_of_mem (List.getElem_mem _)⟩

/-- The names of two properties tell them apart. -/
theorem eq_of_name_eq {left right : Property} (first : left ∈ definition.properties)
    (second : right ∈ definition.properties) (same : left.name = right.name) : left = right :=
  List.inj_on_of_nodup_map definition.nodup first second same

/-- The position of the key is found by its name. -/
theorem findFinIdx?_key :
    definition.properties.findFinIdx? (·.name == definition.key.name) = some definition.keyIndex := by
  rw [List.findFinIdx?_eq_some_iff]
  refine ⟨beq_self_eq_true _, fun other before same => ?_⟩
  have equal : definition.properties[other] = definition.key :=
    definition.eq_of_name_eq (List.getElem_mem _) (List.getElem_mem _) (eq_of_beq same)
  have nodup : definition.properties.Nodup := List.Nodup.of_map _ definition.nodup
  have index : (other : Nat) = definition.keyIndex := (nodup.getElem_inj_iff).1 equal
  omega

/-- A property is found exactly by its name. -/
theorem property?_eq_some_iff {name : String} {property : Property} :
    definition.property? name = some property ↔
      property ∈ definition.properties ∧ property.name = name := by
  have sound {other : Property} (found : definition.property? name = some other) :
      other ∈ definition.properties ∧ other.name = name :=
    ⟨List.mem_of_find?_eq_some found, by simpa using List.find?_some found⟩
  refine ⟨sound, fun ⟨member, named⟩ => ?_⟩
  cases found : definition.property? name with
  | none => exact absurd (beq_iff_eq.2 named) (List.find?_eq_none.1 found property member)
  | some other =>
    obtain ⟨also, same⟩ := sound found
    rw [definition.eq_of_name_eq also member (same.trans named.symm)]

/-- A property is found by its name. -/
theorem property?_of_mem {property : Property} (member : property ∈ definition.properties) :
    definition.property? property.name = some property :=
  definition.property?_eq_some_iff.2 ⟨member, rfl⟩

end Parts

variable {name key : String} {properties : List Property}

/-- What is made of a name, a key and properties is the definition that has them. -/
theorem create_eq_ok_iff {definition : ModelDefinition} :
    create name key properties = .ok definition ↔
      definition.name = name ∧ definition.key.name = key ∧ definition.properties = properties := by
  constructor
  · intro created
    unfold create at created
    split at created
    · cases created
    split at created
    · cases created
    split at created
    · cases created
    next found =>
      cases created
      rw [List.findFinIdx?_eq_some_iff] at found
      exact ⟨rfl, eq_of_beq found.1, rfl⟩
  · rintro ⟨rfl, rfl, rfl⟩
    have fresh : firstRepeated [] (definition.properties.map Property.name) = none :=
      firstRepeated_eq_none_iff.2 ⟨definition.nodup, fun _ _ => List.not_mem_nil⟩
    have found := definition.findFinIdx?_key
    unfold create
    rw [dif_neg definition.name_ne]
    split
    · next repeated => rw [fresh] at repeated; cases repeated
    · rw [found]

/-- A definition is made exactly of what is consistent. -/
theorem exists_create_iff :
    (∃ definition, create name key properties = .ok definition) ↔ Consistent name key properties := by
  constructor
  · rintro ⟨definition, created⟩
    obtain ⟨rfl, rfl, rfl⟩ := create_eq_ok_iff.1 created
    exact definition.consistent
  · rintro ⟨named, distinct, keyed⟩
    obtain ⟨property, member, rfl⟩ := List.mem_map.1 keyed
    obtain ⟨index, inside, rfl⟩ := List.getElem_of_mem member
    exact ⟨⟨name, properties, ⟨index, inside⟩, named, distinct⟩, create_eq_ok_iff.2 ⟨rfl, rfl, rfl⟩⟩

end ModelDefinition

/-! ## Declarations one after the other -/

namespace DefinitionBuilder

/-- Declarations add their properties in order, and the last key among them replaces the one before. -/
theorem foldl_declare (builder : DefinitionBuilder) (declarations : List Declaration) :
    declarations.foldl declare builder =
      { builder with
        key := (declarations.filterMap Declaration.key?).getLast?.or builder.key
        properties := builder.properties ++ declarations.map Declaration.property } := by
  induction declarations generalizing builder with
  | nil => simp
  | cons declaration rest ih =>
    rw [List.foldl_cons, ih, declare, List.map_cons, List.append_assoc, List.singleton_append]
    congr 1
    cases key : declaration.key? with
    | none => rw [List.filterMap_cons_none key, Option.none_or]
    | some name =>
      rw [List.filterMap_cons_some key, Option.some_or, List.getLast?_cons]
      cases (rest.filterMap Declaration.key?).getLast? <;> rfl

end DefinitionBuilder

/-- A run of declarations defines what is made of all their properties and the last key. -/
theorem ModelDefinition.ofDeclarations_eq (name : String) (declarations : List Declaration) :
    ofDeclarations name declarations =
      match (declarations.filterMap Declaration.key?).getLast? with
      | none => .error (.noKey name)
      | some key => create name key (declarations.map Declaration.property) := by
  rw [ofDeclarations, DefinitionBuilder.foldl_declare, Option.or_none, List.nil_append]
  rfl

end RecordStore
