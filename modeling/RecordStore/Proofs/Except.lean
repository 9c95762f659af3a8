import Mathlib.Data.List.Forall2

/-!
# Computations that may fail

A computation in steps succeeds exactly if every step does.
-/

namespace RecordStore

variable {ε α β : Type}

theorem bind_eq_ok_iff {first : Except ε α} {next : α → Except ε β} {result : β} :
    (first >>= next) = .ok result ↔ ∃ found, first = .ok found ∧ next found = .ok result := by
  cases first with
  | error error => exact iff_of_false nofun (fun ⟨_, ok, _⟩ => nomatch ok)
  | ok found =>
    constructor
    · exact fun same => ⟨found, rfl, same⟩
    · rintro ⟨_, ⟨⟩, same⟩
      exact same

theorem map_eq_ok_iff {first : Except ε α} {change : α → β} {result : β} :
    change <$> first = .ok result ↔ ∃ found, first = .ok found ∧ change found = result := by
  cases first with
  | error error => exact iff_of_false nofun (fun ⟨_, ok, _⟩ => nomatch ok)
  | ok found =>
    constructor
    · rintro ⟨⟩
      exact ⟨found, rfl, rfl⟩
    · rintro ⟨_, ⟨⟩, rfl⟩
      rfl

theorem mapError_eq_ok_iff {ε' : Type} {first : Except ε α} {change : ε → ε'} {result : α} :
    first.mapError change = .ok result ↔ first = .ok result := by
  cases first with
  | error error => exact iff_of_false nofun nofun
  | ok found => simp [Except.mapError]

/-- A list is read item by item. -/
theorem mapM_eq_ok_iff {read : α → Except ε β} {items : List α} {results : List β} :
    items.mapM read = .ok results ↔
      List.Forall₂ (fun item result => read item = .ok result) items results := by
  induction items generalizing results with
  | nil =>
    rw [List.mapM_nil, List.forall₂_nil_left_iff]
    exact ⟨fun same => (Except.ok.inj same).symm, fun same => congrArg Except.ok same.symm⟩
  | cons item rest ih =>
    rw [List.mapM_cons, List.forall₂_cons_left_iff, bind_eq_ok_iff]
    refine exists_congr fun first => ?_
    rw [bind_eq_ok_iff]
    constructor
    · rintro ⟨read, others, later, ⟨⟩⟩
      exact ⟨others, read, ih.1 later, rfl⟩
    · rintro ⟨others, read, later, rfl⟩
      exact ⟨read, others, ih.2 later, rfl⟩

theorem mapM_eq_ok_iff_map {read : α → Except ε β} {items : List α} {results : List β} :
    items.mapM read = .ok results ↔ items.map read = results.map .ok := by
  rw [mapM_eq_ok_iff, ← List.forall₂_eq_eq_eq, List.forall₂_map_left_iff, List.forall₂_map_right_iff]

/-- A list that cannot be read has an item that cannot. -/
theorem exists_error_of_mapM {read : α → Except ε β} {items : List α} {error : ε}
    (failed : items.mapM read = .error error) : ∃ item ∈ items, read item = .error error := by
  induction items with
  | nil => cases failed
  | cons item rest ih =>
    rw [List.mapM_cons] at failed
    cases first : read item with
    | error other =>
      rw [first] at failed
      cases failed
      exact ⟨item, List.mem_cons_self, first⟩
    | ok result =>
      cases others : rest.mapM read with
      | error other =>
        rw [first, others] at failed
        cases failed
        obtain ⟨failing, member, why⟩ := ih others
        exact ⟨failing, List.mem_cons_of_mem _ member, why⟩
      | ok later =>
        rw [first, others] at failed
        cases failed

end RecordStore
