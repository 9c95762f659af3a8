import RecordStore.Proofs.Model.Definition
import RecordStore.Row

/-!
# Rows of records

The names of a model's properties differ, so the row of a record holds for each property what its codec
makes of the value in the record (`CodecRegistry.value_encodeRecord`), and nothing else of the record
enters the row (`CodecRegistry.encodeValues_congr`).
-/

namespace RecordStore

/-- An entry of a list of different names is found by its name. -/
theorem lookup_eq_some_of_mem {β : Type} {entries : List (String × β)}
    (nodup : (entries.map (·.1)).Nodup) {name : String} {value : β} (member : (name, value) ∈ entries) :
    entries.lookup name = some value := by
  induction entries with
  | nil => cases member
  | cons entry rest ih =>
    obtain ⟨first, found⟩ := entry
    rw [List.map_cons, List.nodup_cons] at nodup
    rcases List.mem_cons.1 member with same | later
    · cases same
      exact List.lookup_cons_self
    · have apart : (name == first) = false := by
        rw [beq_eq_false_iff_ne]
        rintro rfl
        exact nodup.1 (List.mem_map.2 ⟨_, later, rfl⟩)
      rw [List.lookup_cons, apart]
      exact ih nodup.2 later

namespace CodecRegistry

variable (registry : CodecRegistry) (definition : ModelDefinition) (record : Record)

/-- The row of a record as one list. -/
theorem encodeRecord_eq_map :
    registry.encodeRecord definition record = definition.properties.map fun property =>
      (property.name, registry.encode property.type (record.value property.name)) := by
  rw [encodeRecord, ModelDefinition.columns, encodeValues, List.zip_map']

theorem lookup_encodeRecord {property : Property} (member : property ∈ definition.properties) :
    (registry.encodeRecord definition record).lookup property.name =
      some (registry.encode property.type (record.value property.name)) := by
  have nodup : ((registry.encodeRecord definition record).map (·.1)).Nodup := by
    rw [encodeRecord_eq_map, List.map_map]
    exact definition.nodup
  refine lookup_eq_some_of_mem nodup ?_
  rw [encodeRecord_eq_map]
  exact List.mem_map_of_mem member

/-- The row of a record holds for each property what its codec makes of the value. -/
theorem value_encodeRecord {property : Property} (member : property ∈ definition.properties) :
    (registry.encodeRecord definition record).value property.name =
      registry.encode property.type (record.value property.name) := by
  rw [StoredRow.value, registry.lookup_encodeRecord definition record member, Option.getD_some]

variable {record} in
/-- Only the declared properties of a record enter its row. -/
theorem encodeValues_congr {other : Record}
    (same : ∀ property ∈ definition.properties,
      record.value property.name = other.value property.name) :
    registry.encodeValues definition record = registry.encodeValues definition other := by
  refine List.map_congr_left fun property member => ?_
  rw [same property member]

end CodecRegistry

end RecordStore
