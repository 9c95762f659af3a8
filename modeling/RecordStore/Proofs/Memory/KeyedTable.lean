import RecordStore.Memory.Table
import RecordStore.Proofs.Row

/-!
# Tables with distinct keys

A table whose rows stand for entries, each with a text as its key. What is inserted, overwritten, found
and deleted is said of the entries, over every kind of cells that tells texts apart.
-/

namespace RecordStore

/-- A list of the length of different names is what the names give, one by one. -/
theorem map_lookup_zip {γ : Type} {names : List String} (distinct : names.Nodup) {cells : List γ}
    (length : cells.length = names.length) (otherwise : γ) :
    (names.map fun name => ((names.zip cells).lookup name).getD otherwise) = cells := by
  induction names generalizing cells with
  | nil => exact (List.length_eq_zero_iff.1 length).symm
  | cons name rest ih =>
    match cells with
    | [] => cases length
    | cell :: others =>
      rw [List.nodup_cons] at distinct
      have tail : rest.map (fun later =>
          (((name :: rest).zip (cell :: others)).lookup later).getD otherwise) = others := by
        refine Eq.trans (List.map_congr_left fun later member => ?_)
          (ih distinct.2 (Nat.succ.inj length))
        have apart : (later == name) = false := by
          rw [beq_eq_false_iff_ne]
          rintro rfl
          exact distinct.1 member
        rw [List.zip_cons_cons, List.lookup_cons, apart]
      rw [List.map_cons, tail, List.zip_cons_cons, List.lookup_cons_self, Option.getD_some]

namespace Table

variable {γ : Type} {table : Table γ} {kind : CellKind γ} {row old new : List γ}

/-- A row given for all columns in their order is kept as it is. -/
theorem rowOf_columns (distinct : table.columns.Nodup) (length : row.length = table.columns.length) :
    table.rowOf kind table.columns row = row :=
  map_lookup_zip distinct length kind.null

/-- A row of which all columns that differ are taken from another becomes that one. -/
theorem merge_eq_new {merged : List String} (distinct : table.columns.Nodup)
    (length : new.length = table.columns.length)
    (differ : ∀ column ∈ table.columns, column ∉ merged →
      table.cell kind old column = table.cell kind new column) :
    table.merge kind merged old new = new := by
  refine Eq.trans (List.map_congr_left fun column member => ?_)
    (map_lookup_zip distinct length kind.null)
  split
  · rfl
  · next kept => exact differ column member kept

/-! ## Entries -/

/-- Rows that stand for entries by their keys, which are texts that the cells tell apart. -/
structure Keyed {ε : Type} (table : Table γ) (kind : CellKind γ) (rowOf : ε → List γ)
    (key : ε → String) : Prop where
  texts (left right : String) :
    kind.equals (kind.ofStored (.string left)) (kind.ofStored (.string right)) = (left == right)
  keyOf (entry : ε) : table.keyOf kind (rowOf entry) = kind.ofStored (.string (key entry))

variable {ε : Type} {rowOf : ε → List γ} {key : ε → String}

/-- The entries after one is put among them, in the place of one with the same key. -/
def put (key : ε → String) (entry : ε) (entries : List ε) : List ε :=
  if key entry ∈ entries.map key then
    entries.map fun old => if key entry = key old then entry else old
  else entries ++ [entry]

theorem key_replaced (entry old : ε) : key (if key entry = key old then entry else old) = key old := by
  split
  · assumption
  · rfl

/-- Putting an entry keeps keys different. -/
theorem nodup_put {entries : List ε} (distinct : (entries.map key).Nodup) (entry : ε) :
    ((put key entry entries).map key).Nodup := by
  rw [put]
  split
  · rw [List.map_map]
    simp only [Function.comp_def, key_replaced]
    exact distinct
  · next untaken =>
    rw [List.map_append, List.nodup_append]
    refine ⟨distinct, List.nodup_cons.2 ⟨List.not_mem_nil, List.nodup_nil⟩, ?_⟩
    rintro _ member _ own rfl
    exact untaken (List.mem_singleton.1 own ▸ member)

theorem key_of_find? {entries : List ε} {text : String} {found : ε}
    (isFound : entries.find? (key · == text) = some found) : key found = text := by
  simpa using List.find?_some isFound

/-- An entry that is put is found by its key, and the others by theirs. -/
theorem find?_put (entry : ε) (entries : List ε) (text : String) :
    (put key entry entries).find? (key · == text) =
      if key entry = text then some entry else entries.find? (key · == text) := by
  rw [put]
  split
  · next taken =>
    rw [List.find?_map]
    simp only [Function.comp_def, key_replaced]
    split
    · next same =>
      obtain ⟨old, member, owns⟩ := List.mem_map.1 taken
      have present : (entries.find? (key · == text)).isSome = true :=
        List.find?_isSome.2 ⟨old, member, beq_iff_eq.2 (owns.trans same)⟩
      obtain ⟨found, isFound⟩ := Option.isSome_iff_exists.1 present
      rw [isFound, Option.map_some, if_pos (same.trans (key_of_find? isFound).symm)]
    · next apart =>
      cases isFound : entries.find? (key · == text) with
      | none => rfl
      | some found =>
        rw [Option.map_some, if_neg fun same => apart (same.trans (key_of_find? isFound))]
  · next untaken =>
    rw [List.find?_append]
    split
    · next same =>
      have absent : entries.find? (key · == text) = none :=
        List.find?_eq_none.2 fun old member owns =>
          untaken (List.mem_map.2 ⟨old, member, (beq_iff_eq.1 owns).trans same.symm⟩)
      rw [absent, Option.none_or]
      simp [same]
    · next apart => simp [apart]

/-- Whether the keys of a batch are different and none of them is taken. -/
structure Fresh (key : ε → String) (batch entries : List ε) : Prop where
  distinct : (batch.map key).Nodup
  untaken : ∀ entry ∈ batch, key entry ∉ entries.map key

theorem fresh_cons_iff {entry : ε} {batch entries : List ε} :
    Fresh key (entry :: batch) entries ↔
      key entry ∉ entries.map key ∧ Fresh key batch (entries ++ [entry]) := by
  constructor
  · rintro ⟨distinct, untaken⟩
    rw [List.map_cons, List.nodup_cons] at distinct
    refine ⟨untaken entry List.mem_cons_self, distinct.2, fun other member => ?_⟩
    rw [List.map_append, List.mem_append, not_or]
    refine ⟨untaken other (List.mem_cons_of_mem _ member), fun same => distinct.1 ?_⟩
    rw [← List.mem_singleton.1 same]
    exact List.mem_map_of_mem member
  · rintro ⟨untaken, distinct, others⟩
    have apart (other : ε) (member : other ∈ batch) :
        key other ∉ entries.map key ∧ key other ≠ key entry := by
      have both := others other member
      rwa [List.map_append, List.mem_append, not_or, List.map_singleton, List.mem_singleton] at both
    refine ⟨List.nodup_cons.2 ⟨fun taken => ?_, distinct⟩, fun other member => ?_⟩
    · obtain ⟨other, member, same⟩ := List.mem_map.1 taken
      exact (apart other member).2 same
    · rcases List.mem_cons.1 member with rfl | later
      · exact untaken
      · exact (apart other later).1

namespace Keyed

variable (keyed : table.Keyed kind rowOf key)

include keyed

theorem sameKey (left right : ε) :
    table.sameKey kind (rowOf left) (rowOf right) = (key left == key right) := by
  rw [Table.sameKey, keyed.keyOf, keyed.keyOf, keyed.texts]

theorem any_sameKey (entry : ε) (entries : List ε) :
    (entries.map rowOf).any (table.sameKey kind (rowOf entry)) = decide (key entry ∈ entries.map key) := by
  rw [List.any_map, Bool.eq_iff_iff, List.any_eq_true, decide_eq_true_iff, List.mem_map]
  simp only [Function.comp_apply, keyed.sameKey, beq_iff_eq, eq_comm (a := key entry)]

/-- An insert that overwrites the row of its key puts its entry among those of the table. -/
theorem insertRow_of_conflict (conflict : Conflict)
    (overwrites : ∀ old new, key new = key old →
      if conflict.merged = [] then rowOf old = rowOf new
      else table.merge kind conflict.merged (rowOf old) (rowOf new) = rowOf new)
    (entry : ε) (entries : List ε) :
    ∃ changed, table.insertRow kind (some conflict) (rowOf entry) (entries.map rowOf) =
      some ((put key entry entries).map rowOf, changed) := by
  by_cases taken : key entry ∈ entries.map key
  · have found : (entries.map rowOf).any (table.sameKey kind (rowOf entry)) = true := by
      rw [keyed.any_sameKey, decide_eq_true taken]
    unfold insertRow put
    rw [if_pos found, if_pos taken, List.map_map]
    match conflict with
    | ⟨column, []⟩ =>
      refine ⟨0, congrArg (fun rows => some (rows, 0)) (List.map_congr_left fun old _ => ?_)⟩
      rw [Function.comp_apply]
      split
      · next same => exact overwrites old entry same
      · rfl
    | ⟨column, first :: others⟩ =>
      dsimp only
      rw [List.map_map]
      refine ⟨1, congrArg (fun rows => some (rows, 1)) (List.map_congr_left fun old _ => ?_)⟩
      rw [Function.comp_apply, Function.comp_apply, keyed.sameKey]
      by_cases same : key entry = key old
      · rw [if_pos (beq_iff_eq.2 same), if_pos same]
        exact overwrites old entry same
      · rw [if_neg (mt beq_iff_eq.1 same), if_neg same]
  · have absent : ¬(entries.map rowOf).any (table.sameKey kind (rowOf entry)) = true := by
      rw [keyed.any_sameKey, decide_eq_true_iff]
      exact taken
    unfold insertRow put
    rw [if_neg absent, if_neg taken, List.map_append, List.map_singleton]
    exact ⟨1, rfl⟩

/-- Rows whose keys are fresh are inserted together. -/
theorem insertRows_of_fresh {batch entries : List ε} (fresh : Fresh key batch entries) :
    table.insertRows kind none (batch.map rowOf) (entries.map rowOf) =
      some ((entries ++ batch).map rowOf, batch.length) := by
  induction batch generalizing entries with
  | nil => simp [insertRows]
  | cons entry rest ih =>
    obtain ⟨untaken, later⟩ := fresh_cons_iff.1 fresh
    have others := ih later
    rw [List.map_append, List.map_singleton] at others
    simp [insertRows, insertRow, keyed.any_sameKey, untaken, others, Nat.add_comm]

/-- Rows whose keys are not fresh are refused together. -/
theorem insertRows_of_not_fresh {batch entries : List ε} (stale : ¬Fresh key batch entries) :
    table.insertRows kind none (batch.map rowOf) (entries.map rowOf) = none := by
  induction batch generalizing entries with
  | nil => exact absurd ⟨List.nodup_nil, nofun⟩ stale
  | cons entry rest ih =>
    by_cases taken : key entry ∈ entries.map key
    · simp [insertRows, insertRow, keyed.any_sameKey, taken]
    · have others := ih fun later => stale (fresh_cons_iff.2 ⟨taken, later⟩)
      rw [List.map_append, List.map_singleton] at others
      simp [insertRows, insertRow, keyed.any_sameKey, taken, others]

/-- The row of a key is the one that the condition on the key is true of. -/
theorem satisfies_equality (entry : ε) (text : String) :
    table.satisfies kind [(.and, .equality table.key (.string text))] (rowOf entry) =
      (key entry == text) := by
  refine Eq.trans ?_ (keyed.texts (key entry) text)
  rw [← keyed.keyOf]
  rfl

/-- Asking for one row of a key finds that of the entry with the key, if there is one. -/
theorem select_equality {entries : List ε} (rows : table.rows = entries.map rowOf) (text : String) :
    table.select kind [(.and, .equality table.key (.string text))] [] (some 1) none =
      ((entries.find? (key · == text)).map rowOf).toList := by
  have found : (entries.map rowOf).filter
      (table.satisfies kind [(.and, .equality table.key (.string text))]) =
        (entries.filter (key · == text)).map rowOf := by
    rw [List.filter_map]
    exact congrArg (List.map rowOf)
      (List.filter_congr fun entry _ => keyed.satisfies_equality entry text)
  simp only [select, rows, found, List.isEmpty_nil, if_true, Option.getD_none, List.drop_zero,
    ← List.head?_filter]
  cases entries.filter (key · == text) <;> rfl

/-- Deleting a key leaves the rows of all other keys. -/
theorem filter_not_satisfies (entries : List ε) (text : String) :
    (entries.map rowOf).filter (fun row =>
      !table.satisfies kind [(.and, .equality table.key (.string text))] row) =
        (entries.filter (key · != text)).map rowOf := by
  rw [List.filter_map]
  refine congrArg (List.map rowOf) (List.filter_congr fun entry _ => ?_)
  rw [Function.comp_apply, keyed.satisfies_equality]
  rfl

end Keyed

end Table

end RecordStore
