import Mathlib.Data.Option.Basic
import RecordStore.Json.Document
import RecordStore.Proofs.Except

/-!
# What documents are read

Each reader of a part of a document succeeds on the values of one form only, and gives what they hold.
-/

namespace RecordStore.Document

variable {α : Type} {json : Json} {items : List Json}

theorem string_eq_ok_iff {value : String} : string json = .ok value ↔ json = .string value := by
  cases json <;> simp [string, unexpected]

theorem bool_eq_ok_iff {value : Bool} : bool json = .ok value ↔ json = .bool value := by
  cases json <;> simp [bool, unexpected]

/-- A word is the number of a word without sign. -/
theorem word_eq_ok_iff {value : UInt64} :
    word json = .ok value ↔ json = .number (.ofUInt64 value) := by
  cases json with
  | number number =>
    cases number with
    | integer found range =>
      rw [word, Json.number.injEq, JsonNumber.ofUInt64, JsonNumber.integer.injEq]
      split
      · next positive =>
        have fits : (UInt64.ofNat found.toNat).toNat = found.toNat :=
          UInt64.toNat_ofNat_of_lt' (show found.toNat < 18446744073709551616 by omega)
        rw [Except.ok.injEq, ← UInt64.toNat_inj, fits]
        omega
      · next negative => exact iff_of_false (by rintro ⟨⟩) (by omega)
    | double => simp [word, unexpected, JsonNumber.ofUInt64]
  | _ => simp [word, unexpected]

theorem list_eq_ok_iff {read : Json → Reading α} {values : List α} :
    list read json = .ok values ↔
      ∃ items, json = .array items ∧
        List.Forall₂ (fun item value => read item = .ok value) items values := by
  cases json <;> simp [list, unexpected, mapM_eq_ok_iff]

/-- Null stands for a value that is absent, whatever else the reader takes. -/
theorem nullable_eq_ok_iff {read : Json → Reading α} {value : Option α} :
    nullable read json = .ok value ↔
      (json = .null ∧ value = none) ∨
        json ≠ .null ∧ ∃ content, read json = .ok content ∧ value = some content := by
  cases json with
  | null => simp [nullable, eq_comm]
  | _ => simp [nullable, map_eq_ok_iff, @eq_comm _ value]

section Structures

variable {name : String} {read : Json → Reading α} {fields : List (String × Json)}

/-- A field that may be absent is read if it is there. -/
theorem field?_eq_ok_iff {value : Option α} :
    field? name read fields = .ok value ↔
      Option.Rel (fun json value => read json = .ok value) (Json.field? name fields) value := by
  rw [field?]
  cases Json.field? name fields <;> cases value <;> simp [map_eq_ok_iff]

theorem field?_eq_ok_some_iff {value : α} :
    field? name read fields = .ok (some value) ↔
      ∃ json, Json.field? name fields = some json ∧ read json = .ok value := by
  rw [field?_eq_ok_iff]
  cases Json.field? name fields <;> simp

theorem required_eq_ok_iff {found : Option α} {value : α} :
    required name found = .ok value ↔ found = some value := by
  cases found <;> simp [required]

theorem element_eq_ok_iff {index size : Nat} {expected : String} {value : α} :
    element items index read expected size = .ok value ↔
      ∃ item, items[index]? = some item ∧ read item = .ok value := by
  rw [element]
  cases items[index]? <;> simp

theorem element?_eq_ok_iff {index : Nat} {value : Option α} :
    element? items index read = .ok value ↔
      Option.Rel (fun json value => read json = .ok value) items[index]? value := by
  rw [element?]
  cases items[index]? <;> cases value <;> simp [map_eq_ok_iff]

theorem noMore_eq_ok_iff {size : Nat} : noMore items size = .ok () ↔ items.length ≤ size := by
  rw [noMore]
  split <;> simp <;> omega

end Structures

/-! ## Structures of three parts -/

section Three

variable {α₁ α₂ α₃ : Type} {read₁ : Json → Reading α₁} {read₂ : Json → Reading α₂}
  {read₃ : Json → Reading α₃} {make : α₁ → α₂ → α₃ → α} {result : α}

/-- An object is read as a structure if it has all the fields, whatever else it has. -/
theorem fields_eq_ok_iff {name₁ name₂ name₃ : String} {fields : List (String × Json)} :
    (do
      let part₁ ← field? name₁ read₁ fields
      let part₂ ← field? name₂ read₂ fields
      let part₃ ← field? name₃ read₃ fields
      return make (← required name₁ part₁) (← required name₂ part₂) (← required name₃ part₃)) =
        .ok result ↔
      ∃ value₁ value₂ value₃,
        (∃ json, Json.field? name₁ fields = some json ∧ read₁ json = .ok value₁) ∧
        (∃ json, Json.field? name₂ fields = some json ∧ read₂ json = .ok value₂) ∧
        (∃ json, Json.field? name₃ fields = some json ∧ read₃ json = .ok value₃) ∧
        make value₁ value₂ value₃ = result := by
  simp only [bind_eq_ok_iff, required_eq_ok_iff, ← field?_eq_ok_some_iff]
  constructor
  · rintro ⟨_, first, _, second, _, third, value₁, rfl, value₂, rfl, value₃, rfl, ⟨⟩⟩
    exact ⟨value₁, value₂, value₃, first, second, third, rfl⟩
  · rintro ⟨value₁, value₂, value₃, first, second, third, rfl⟩
    exact ⟨_, first, _, second, _, third, value₁, rfl, value₂, rfl, value₃, rfl, rfl⟩

/-- An array is read as a structure if it has just its parts, in order. -/
theorem elements_eq_ok_iff {expected : String} :
    (do
      let part₁ ← element items 0 read₁ expected 3
      let part₂ ← element items 1 read₂ expected 3
      let part₃ ← element items 2 read₃ expected 3
      noMore items 3
      return make part₁ part₂ part₃) = .ok result ↔
      ∃ item₁ item₂ item₃, items = [item₁, item₂, item₃] ∧
        ∃ value₁ value₂ value₃, read₁ item₁ = .ok value₁ ∧ read₂ item₂ = .ok value₂ ∧
          read₃ item₃ = .ok value₃ ∧ make value₁ value₂ value₃ = result := by
  simp only [bind_eq_ok_iff, element_eq_ok_iff]
  constructor
  · rintro ⟨value₁, ⟨item₁, at₁, first⟩, value₂, ⟨item₂, at₂, second⟩, value₃, ⟨item₃, at₃, third⟩, _,
      short, ⟨⟩⟩
    rw [noMore_eq_ok_iff] at short
    have whole : items = [item₁, item₂, item₃] := by
      match items with
      | [] => cases at₁
      | [_] => cases at₂
      | [_, _] => cases at₃
      | [_, _, _] =>
        cases at₁
        cases at₂
        cases at₃
        rfl
      | _ :: _ :: _ :: _ :: _ =>
        simp only [List.length_cons] at short
        omega
    exact ⟨item₁, item₂, item₃, whole, value₁, value₂, value₃, first, second, third, rfl⟩
  · rintro ⟨item₁, item₂, item₃, rfl, value₁, value₂, value₃, first, second, third, rfl⟩
    exact ⟨value₁, ⟨_, rfl, first⟩, value₂, ⟨_, rfl, second⟩, value₃, ⟨_, rfl, third⟩, (),
      noMore_eq_ok_iff.2 (Nat.le_refl 3), rfl⟩

end Three

end RecordStore.Document
