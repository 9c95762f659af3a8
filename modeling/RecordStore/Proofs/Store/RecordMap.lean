import Mathlib.Data.Finmap
import RecordStore.Proofs.Memory.KeyedTable

/-!
# Records by their keys

What a datastore keeps of one model is a finite map from keys to records. A table keeps it as a list of
entries with different keys, in the order of their insertion; `RecordMap.IsListedBy` is the relation of
the two, and it is kept when entries are put, added and deleted on both sides.
-/

namespace RecordStore

/-- A record of a model whose primary key is a text. -/
structure KeyedRecord (model : ModelDefinition) where
  record : Record
  key : String
  holds : record.value model.key.name = .string key

/-- The object with the record. -/
def KeyedRecord.object {model : ModelDefinition} (entry : KeyedRecord model) : ModelInstance :=
  ⟨model, .ok entry.record⟩

/-- Records by their keys. -/
abbrev RecordMap := Finmap fun _ : String => Record

namespace RecordMap

variable {model : ModelDefinition}

/-- The records after one is written, in the place of one with the same key. -/
def put (map : RecordMap) (entry : KeyedRecord model) : RecordMap := map.insert entry.key entry.record

/-- Whether the keys of a batch are different and none of them is taken. -/
def Admits (map : RecordMap) (batch : List (KeyedRecord model)) : Prop :=
  (batch.map KeyedRecord.key).Nodup ∧ ∀ entry ∈ batch, entry.key ∉ map

instance (map : RecordMap) (batch : List (KeyedRecord model)) : Decidable (map.Admits batch) :=
  inferInstanceAs (Decidable (_ ∧ _))

/-- Entries with different keys that are those of a map. -/
structure IsListedBy (map : RecordMap) (entries : List (KeyedRecord model)) : Prop where
  distinct : (entries.map KeyedRecord.key).Nodup
  lookup (key : String) : map.lookup key = (entries.find? (·.key == key)).map KeyedRecord.record

theorem isListedBy_nil : IsListedBy ∅ ([] : List (KeyedRecord model)) :=
  ⟨List.nodup_nil, fun _ => Finmap.lookup_empty _⟩

namespace IsListedBy

variable {map : RecordMap} {entries : List (KeyedRecord model)} (listed : map.IsListedBy entries)

include listed

theorem mem_iff {key : String} : key ∈ map ↔ key ∈ entries.map KeyedRecord.key := by
  rw [← Finmap.lookup_isSome, listed.lookup, Option.isSome_map, List.find?_isSome, List.mem_map]
  simp only [beq_iff_eq]

/-- The keys of a map are as many as the entries. -/
theorem card_keys : map.keys.card = entries.length := by
  have keys : map.keys = (entries.map KeyedRecord.key).toFinset := by
    ext key
    rw [Finmap.mem_keys, listed.mem_iff, List.mem_toFinset]
  rw [keys, List.toFinset_card_of_nodup listed.distinct, List.length_map]

theorem fresh_iff {batch : List (KeyedRecord model)} :
    Table.Fresh KeyedRecord.key batch entries ↔ map.Admits batch := by
  simp only [Admits, listed.mem_iff]
  exact ⟨fun fresh => ⟨fresh.distinct, fresh.untaken⟩, fun admitted => ⟨admitted.1, admitted.2⟩⟩

/-- Writing a record puts its entry among the others. -/
theorem put (entry : KeyedRecord model) :
    (map.put entry).IsListedBy (Table.put KeyedRecord.key entry entries) := by
  refine ⟨Table.nodup_put listed.distinct entry, fun key => ?_⟩
  rw [Table.find?_put]
  split
  · next same => rw [← same, RecordMap.put, Finmap.lookup_insert, Option.map_some]
  · next apart =>
    rw [RecordMap.put, Finmap.lookup_insert_of_ne map (Ne.symm apart), listed.lookup]

/-- Deleting a key leaves the other entries. -/
theorem erase (key : String) : IsListedBy (map.erase key) (entries.filter (·.key != key)) := by
  refine ⟨listed.distinct.sublist (List.filter_sublist.map _), fun other => ?_⟩
  rw [List.find?_filter]
  by_cases same : other = key
  · rw [same, Finmap.lookup_erase]
    simp
  · rw [Finmap.lookup_erase_ne same, listed.lookup]
    refine congrArg (fun kept => (entries.find? kept).map KeyedRecord.record) (funext fun entry => ?_)
    by_cases owns : entry.key = other
    · simp [owns, same]
    · simp [owns]

omit listed in
/-- Writing a batch that is admitted adds its entries to the others. -/
theorem append (listed : map.IsListedBy entries) {batch : List (KeyedRecord model)}
    (admitted : map.Admits batch) : (batch.foldl RecordMap.put map).IsListedBy (entries ++ batch) := by
  have fresh := listed.fresh_iff.2 admitted
  clear admitted
  induction batch generalizing map entries with
  | nil => rwa [List.append_nil]
  | cons entry rest ih =>
    obtain ⟨untaken, later⟩ := Table.fresh_cons_iff.1 fresh
    have first := listed.put entry
    rw [Table.put, if_neg untaken] at first
    rw [List.foldl_cons, List.append_cons]
    exact ih first later

end IsListedBy

end RecordMap

end RecordStore
