import RecordStore.Proofs.Codec.RoundTrip
import RecordStore.Proofs.Except
import RecordStore.Proofs.Row

/-!
# Records that come back from their rows

A record whose declared properties have values of their types comes back from its row with just these
properties, missing ones as null (`CodecRegistry.decodeRow_encodeRow`). The fields that the model does
not declare have no part in it.
-/

namespace RecordStore

/-- A record of exactly the properties that a model declares, missing ones being null. -/
structure Record.IsRestriction (definition : ModelDefinition) (record restricted : Record) : Prop where
  ordered : Json.Ordered restricted
  field : ∀ name, Json.field? name restricted =
    if name ∈ definition.columns then some (record.value name) else none

/-- A record whose declared properties are missing, null or values of their types. -/
def Record.Conforms (definition : ModelDefinition) (record : Record) : Prop :=
  ∀ property ∈ definition.properties,
    record.value property.name = .null ∨ property.type.Allows (record.value property.name)

namespace CodecRegistry

/-- Reading property by property succeeds when each is read. -/
theorem decodeRecord_eq_ok {registry : CodecRegistry} {definition : ModelDefinition}
    {row : StoredRow} {record : Record}
    (read : ∀ property ∈ definition.properties,
      registry.decode property.type (row.value property.name) = .ok (record.value property.name)) :
    registry.decodeRecord definition row =
      .ok (Record.ofFields (definition.properties.map fun property =>
        (property.name, record.value property.name))) := by
  have fields : (definition.properties.mapM fun property => do
      return (property.name, ← registry.decode property.type (row.value property.name))) =
      Except.ok (definition.properties.map fun property => (property.name, record.value property.name)) := by
    rw [mapM_eq_ok_iff_map, List.map_map]
    refine List.map_congr_left fun property member => ?_
    rw [read property member]
    rfl
  rw [decodeRecord, fields]
  rfl

/-- The declared properties of a record are its restriction. -/
theorem isRestriction_ofFields (definition : ModelDefinition) (record : Record) :
    Record.IsRestriction definition record
      (Record.ofFields (definition.properties.map fun property =>
        (property.name, record.value property.name))) := by
  have names : (definition.properties.map fun property =>
      (property.name, record.value property.name)).map (·.1) = definition.columns := by
    rw [List.map_map]
    rfl
  refine ⟨Json.ordered_foldl_insertField List.Pairwise.nil _, fun name => ?_⟩
  have found := Json.field?_foldl_insertField
    (show ((definition.properties.map fun property =>
      (property.name, record.value property.name)).map (·.1)).Nodup from names ▸ definition.nodup)
    name []
  rw [Record.ofFields, found, show Json.field? name [] = none from rfl, Option.or_none]
  split
  · next declared =>
    obtain ⟨property, member, rfl⟩ := List.mem_map.1 declared
    exact lookup_eq_some_of_mem (names ▸ definition.nodup) (List.mem_map_of_mem member)
  · next undeclared =>
    rw [Json.field?, List.lookup_eq_none_iff]
    intro field member
    rw [bne_iff_ne]
    rintro rfl
    exact undeclared (names ▸ List.mem_map_of_mem member)

/-- A record that conforms to its model comes back from its row as what the model declares of it. Its
row holds its stored values in the order of the columns, and depends on declared properties only. -/
theorem decodeRow_encodeRow (definition : ModelDefinition) (record : Record)
    (conforms : record.Conforms definition) :
    (∃ restricted, Record.IsRestriction definition record restricted ∧
      default.decodeRow definition (some (default.encodeRow definition (some record))) =
        .ok restricted) ∧
    default.encodeValues definition record =
      definition.columns.map (default.encodeRow definition (some record)).value ∧
    (default.encodeRow definition (some record)).map (·.1) = definition.columns ∧
    ∀ other : Record,
      (∀ name ∈ definition.columns, other.value name = record.value name) →
      default.encodeRow definition (some other) = default.encodeRow definition (some record) ∧
      default.encodeValues definition other = default.encodeValues definition record := by
  have stored (property : Property) (member : property ∈ definition.properties) :=
    default.value_encodeRecord definition record member
  refine ⟨⟨_, isRestriction_ofFields definition record, ?_⟩, ?_, ?_, fun other same => ?_⟩
  · refine decodeRecord_eq_ok fun property member => ?_
    rw [encodeRow, stored property member]
    exact decode_encode (conforms property member)
  · rw [ModelDefinition.columns, List.map_map]
    exact List.map_congr_left fun property member => (stored property member).symm
  · rw [encodeRow, encodeRecord_eq_map, List.map_map]
    rfl
  · have values := default.encodeValues_congr definition fun property member =>
      same property.name (List.mem_map_of_mem member)
    refine ⟨?_, values⟩
    simp only [encodeRow, encodeRecord, values]

/-- Escapes, a leap day, the smallest double, an unsigned word inside a structure, a missing property
and one that is not declared. -/
theorem decodeRow_encodeRow_document :
    let definition : ModelDefinition :=
      ⟨"Document", [⟨"id", .uniqueId, true⟩, ⟨"at", .datetime, true⟩, ⟨"size", .number, true⟩,
        ⟨"tags", .array, true⟩, ⟨"note", .text, false⟩], ⟨0, by decide⟩, by decide, by decide⟩
    let tags : Json := .array [.object [("", .null), ("\"é", .number (.integer 18446744073709551615
      (by decide)))], .array []]
    let record : Record := [("at", .string "2016-02-29T23:59:59.001Z"), ("draft", .bool true),
      ("id", .string "\\ \n\x01"), ("size", .number (.double ⟨true, 0, 1⟩)), ("tags", tags)]
    ∃ restricted, Record.IsRestriction definition record restricted ∧
      default.decodeRow definition (some (default.encodeRow definition (some record))) =
        .ok restricted := by
  intro definition tags record
  have timestamp : IsNormalTimestamp "2016-02-29T23:59:59.001Z" :=
    @IsNormalTimestamp.mk ['2', '0', '1', '6'] ['0', '2'] ['2', '9'] ['2', '3'] ['5', '9'] ['5', '9']
      ['0', '0', '1'] (by decide) (by decide) (by decide) (by decide) (by decide) (by decide)
      (by decide) (by decide) (by decide)
  have conforms : record.Conforms definition := by
    intro property member
    simp only [definition, List.mem_cons, List.not_mem_nil, or_false] at member
    rcases member with rfl | rfl | rfl | rfl | rfl
    · exact .inr ⟨_, rfl⟩
    · exact .inr ⟨_, timestamp, rfl⟩
    · exact .inr (.inr ⟨⟨true, 0, 1⟩, .inl (by decide +kernel), rfl⟩)
    · exact .inr ⟨.inl ⟨_, rfl⟩, by decide, by decide, by decide⟩
    · exact .inl rfl
  exact (decodeRow_encodeRow definition record conforms).1

end CodecRegistry

end RecordStore
