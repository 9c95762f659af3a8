import RecordStore.Json.Basic

/-!
# Fields in order

Names are ordered by their characters, and inserting a field keeps a list of fields in order. Fields
that are in order are not changed by `Json.ofFields` (`Json.ofFields_of_ordered`), and a field can be
looked up in what different names were inserted into as if it were in the list of what was inserted
(`Json.field?_foldl_insertField`).
-/

namespace RecordStore.Json

/-! ## The order of names -/

theorem nameLt_iff (left right : String) : nameLt left right = true ↔ left.toList < right.toList := by
  rw [nameLt, decide_eq_true_iff]

theorem nameLt_irrefl (name : String) : nameLt name name = false := by
  rw [← Bool.not_eq_true, nameLt_iff]
  exact List.lt_irrefl _

theorem nameLt_trans {first second third : String} (left : nameLt first second = true)
    (right : nameLt second third = true) : nameLt first third = true := by
  rw [nameLt_iff] at left right ⊢
  exact List.lt_trans left right

theorem nameLt_asymm {left right : String} (before : nameLt left right = true) :
    nameLt right left = false := by
  cases after : nameLt right left with
  | false => rfl
  | true => rw [← nameLt_trans before after, nameLt_irrefl]

/-- Of two different names one comes first. -/
theorem nameLt_of_ne_of_not_nameLt {left right : String} (different : left ≠ right)
    (notBefore : nameLt left right = false) : nameLt right left = true := by
  rw [← Bool.not_eq_true, nameLt_iff, List.not_lt, List.le_iff_lt_or_eq] at notBefore
  rcases notBefore with before | same
  · exact (nameLt_iff right left).2 before
  · exact absurd (String.toList_inj.1 same).symm different

/-! ## Inserting -/

/-- Fields in the order of their names, one for each name. -/
def Ordered (fields : List (String × Json)) : Prop :=
  fields.Pairwise fun left right => nameLt left.1 right.1 = true

theorem field?_cons (name : String) (field : String × Json) (rest : List (String × Json)) :
    field? name (field :: rest) = if name = field.1 then some field.2 else field? name rest := by
  rw [field?, List.lookup_cons, ← field?]
  by_cases same : name = field.1
  · rw [if_pos same, beq_iff_eq.2 same]
  · rw [if_neg same, beq_eq_false_iff_ne.2 same]

/-- The inserted field is found, and every other one as before. -/
theorem field?_insertField (name other : String) (value : Json) (fields : List (String × Json)) :
    field? other (insertField name value fields) =
      if other = name then some value else field? other fields := by
  induction fields with
  | nil => exact field?_cons other (name, value) []
  | cons first rest ih =>
    rw [insertField]
    split
    · next same =>
      rw [field?_cons, field?_cons, same]
      split <;> rfl
    split
    · exact field?_cons other (name, value) (first :: rest)
    · next different _ =>
      rw [field?_cons, field?_cons, ih]
      by_cases same : other = first.1
      · have apart : other ≠ name := fun also => different (also.symm.trans same)
        rw [if_pos same, if_neg apart, if_pos same]
      · rw [if_neg same, if_neg same]

theorem mem_insertField {name : String} {value : Json} {fields : List (String × Json)}
    {field : String × Json} (member : field ∈ insertField name value fields) :
    field = (name, value) ∨ field ∈ fields := by
  induction fields with
  | nil => exact .inl (List.mem_singleton.1 member)
  | cons first rest ih =>
    rw [insertField] at member
    split at member
    · rcases List.mem_cons.1 member with same | later
      · exact .inl same
      · exact .inr (List.mem_cons_of_mem _ later)
    split at member
    · exact (List.mem_cons.1 member).imp_right id
    · rcases List.mem_cons.1 member with same | later
      · exact .inr (same ▸ List.mem_cons_self)
      · exact (ih later).imp_right (List.mem_cons_of_mem _)

theorem ordered_insertField {name : String} {value : Json} {fields : List (String × Json)}
    (ordered : Ordered fields) : Ordered (insertField name value fields) := by
  induction fields with
  | nil => exact List.pairwise_singleton _ _
  | cons first rest ih =>
    obtain ⟨before, ordered⟩ := List.pairwise_cons.1 ordered
    rw [insertField]
    split
    · next same => exact List.pairwise_cons.2 ⟨by rwa [same], ordered⟩
    split
    · next earlier =>
      refine List.pairwise_cons.2 ⟨fun field member => ?_, List.pairwise_cons.2 ⟨before, ordered⟩⟩
      rcases List.mem_cons.1 member with rfl | later
      · exact earlier
      · exact nameLt_trans earlier (before field later)
    · next different notEarlier =>
      refine List.pairwise_cons.2 ⟨fun field member => ?_, ih ordered⟩
      rcases mem_insertField member with rfl | later
      · exact nameLt_of_ne_of_not_nameLt different (Bool.eq_false_iff.2 notEarlier)
      · exact before field later

/-- A name that comes after all others is put at the end. -/
theorem insertField_of_last {name : String} {value : Json} {fields : List (String × Json)}
    (last : ∀ field ∈ fields, nameLt field.1 name = true) :
    insertField name value fields = fields ++ [(name, value)] := by
  induction fields with
  | nil => rfl
  | cons first rest ih =>
    have before := last first List.mem_cons_self
    have different : name ≠ first.1 := by
      rintro rfl
      rw [nameLt_irrefl] at before
      cases before
    rw [insertField, if_neg different, if_neg (by rw [nameLt_asymm before]; decide),
      ih fun field member => last field (List.mem_cons_of_mem _ member)]
    rfl

/-! ## Many fields -/

/-- Inserting fields in order after those that come before them all puts them at the end. -/
theorem foldl_insertField_of_ordered {front back : List (String × Json)}
    (ordered : Ordered (front ++ back)) :
    back.foldl (fun sorted field => insertField field.1 field.2 sorted) front = front ++ back := by
  induction back generalizing front with
  | nil => exact (List.append_nil _).symm
  | cons field back ih =>
    have last : ∀ other ∈ front, nameLt other.1 field.1 = true := fun other member =>
      (List.pairwise_append.1 ordered).2.2 other member field List.mem_cons_self
    rw [List.foldl_cons, insertField_of_last last, ih (by simpa using ordered)]
    simp

/-- Fields in order are kept as they are. -/
theorem ofFields_of_ordered {fields : List (String × Json)} (ordered : Ordered fields) :
    ofFields fields = .object fields := by
  rw [ofFields, foldl_insertField_of_ordered (by simpa using ordered), List.nil_append]

theorem ordered_foldl_insertField {front : List (String × Json)} (ordered : Ordered front)
    (fields : List (String × Json)) :
    Ordered (fields.foldl (fun sorted field => insertField field.1 field.2 sorted) front) := by
  induction fields generalizing front with
  | nil => exact ordered
  | cons field fields ih => exact ih (ordered_insertField ordered)

/-- Among inserted fields of different names each is found by its name. -/
theorem field?_foldl_insertField {fields : List (String × Json)}
    (nodup : (fields.map (·.1)).Nodup) (name : String) (front : List (String × Json)) :
    field? name (fields.foldl (fun sorted field => insertField field.1 field.2 sorted) front) =
      (field? name fields).or (field? name front) := by
  induction fields generalizing front with
  | nil => rfl
  | cons field fields ih =>
    rw [List.map_cons, List.nodup_cons] at nodup
    rw [List.foldl_cons, ih nodup.2, field?_insertField, field?_cons]
    by_cases same : name = field.1
    · have absent : field? name fields = none := by
        rw [field?, List.lookup_eq_none_iff]
        intro other member
        rw [bne_iff_ne]
        intro also
        exact nodup.1 (List.mem_map.2 ⟨other, member, also.symm.trans same⟩)
      rw [if_pos same, if_pos same, absent, Option.none_or, Option.some_or]
    · rw [if_neg same, if_neg same]

end RecordStore.Json
