import RecordStore.Memory.Database
import RecordStore.Proofs.Text.Order

/-!
# Answers of a store in memory

A store in memory answers with a part of what a statement comes to. Its cells may keep every value as it
was bound, and its own order tells texts apart.
-/

namespace RecordStore

/-! ## Kinds of cells -/

/-- Cells that hold every value as it was bound, and tell texts apart. -/
structure CellKind.KeepsValues (kind : CellKind StoredValue) : Prop where
  null : kind.null = .null
  ofStored (value : StoredValue) : kind.ofStored value = value
  toStored (value : StoredValue) : kind.toStored value = value
  texts (left right : String) : kind.equals (.string left) (.string right) = (left == right)

theorem CellKind.keepsValues_kept {order : StoredValue → StoredValue → Ordering}
    (tells : ∀ left right, order (.string left) (.string right) = .eq ↔ left = right)
    (like likeAnyCase : StoredValue → StoredValue → Bool) :
    (CellKind.kept order like likeAnyCase).KeepsValues := by
  refine ⟨rfl, fun _ => rfl, fun _ => rfl, fun left right => ?_⟩
  rw [Bool.eq_iff_iff, beq_iff_eq, ← tells]
  simp [equals, compares, kept, StoredValue.isNull]

namespace Cell

/-- The order of cells tells texts apart. -/
theorem order_text_eq_iff (left right : String) : order (.text left) (.text right) = .eq ↔ left = right := by
  rw [order, compareLists_eq_iff, List.map_inj_right fun _ _ => Char.toNat_inj.1, String.toList_inj]

theorem compareReals_self (x : Double) : compareReals x x = .eq := by
  cases x <;> simp [compareReals]

theorem compareReals_eq_symm {x y : Double} (equal : compareReals x y = .eq) : compareReals y x = .eq := by
  cases x with
  | finite x =>
    cases y with
    | finite y => simp_all [compareReals]
    | infinite negative => cases negative <;> cases equal
    | nan => cases equal
  | infinite left =>
    cases y with
    | infinite right => simp_all [compareReals]
    | finite y => cases left <;> cases equal
    | nan => cases left <;> cases equal
  | nan =>
    cases y with
    | finite y => cases equal
    | infinite negative => cases negative <;> cases equal
    | nan => rfl

/-- Every cell is equal to itself. -/
theorem order_self (cell : Cell) : order cell cell = .eq := by
  cases cell with
  | null => rfl
  | integer value => simp [order]
  | real value => exact compareReals_self value
  | text value => exact (order_text_eq_iff value value).2 rfl
  | blob value => exact (compareLists_eq_iff _ _).2 rfl

/-- Cells are equal both ways round. -/
theorem order_eq_symm {left right : Cell} (equal : order left right = .eq) : order right left = .eq := by
  cases left <;> cases right
  case integer.integer | integer.real | real.integer => simp_all [order]
  case real.real => exact compareReals_eq_symm equal
  case text.text | blob.blob => simp_all [order, compareLists_eq_iff]
  all_goals first | rfl | cases equal

end Cell

/-! ## Answers -/

variable {γ : Type} {kind : CellKind γ} {database : Database γ} {statement : Statement}

/-- A statement runs on the table that it names. -/
theorem Database.runStatement_of_lookup (kind : CellKind γ) {command : Command} {table : Table γ}
    (said : Command.ofStatement? statement = some command)
    (found : database.tables.lookup command.table = some table) :
    database.runStatement kind statement = database.runOn kind table command := by
  rw [runStatement, said]
  simp only [found]

/-- Only columns of the table are let through. -/
theorem Database.checkColumns_eq_ok_iff {table : Table γ} {fault : String → DatabaseFault}
    {columns : List String} :
    checkColumns table fault columns = .ok () ↔ ∀ column ∈ columns, column ∈ table.columns := by
  rw [checkColumns]
  cases found : columns.find? (· ∉ table.columns) with
  | none =>
    rw [List.find?_eq_none] at found
    exact iff_of_true rfl fun column member => by simpa using found column member
  | some column =>
    have foreign : column ∉ table.columns := by simpa using List.find?_some found
    exact iff_of_false nofun fun all => foreign (all column (List.mem_of_find?_eq_some found))

namespace Pool

variable {outcome : Database.Outcome γ}

theorem answer_execute (ran : database.runStatement kind statement = .ok outcome) :
    (Pool.ofCells kind).answer database (.execute statement) =
      (.ok outcome.affected, outcome.database) := by
  simp [ofCells, Database.answer, Database.answerWith, ran]

theorem answer_execute_of_error {fault : DatabaseFault}
    (ran : database.runStatement kind statement = .error fault) :
    (Pool.ofCells kind).answer database (.execute statement) = (.error fault.error, database) := by
  simp [ofCells, Database.answer, Database.answerWith, ran]

theorem answer_fetchAll (ran : database.runStatement kind statement = .ok outcome) :
    (Pool.ofCells kind).answer database (.fetchAll statement) =
      (.ok outcome.rows, outcome.database) := by
  simp [ofCells, Database.answer, Database.answerWith, ran]

theorem answer_fetchOptional (ran : database.runStatement kind statement = .ok outcome) :
    (Pool.ofCells kind).answer database (.fetchOptional statement) =
      (.ok outcome.rows.head?, outcome.database) := by
  simp [ofCells, Database.answer, Database.answerWith, ran]

theorem answer_executeInside (ran : database.runStatement kind statement = .ok outcome) :
    (Pool.ofCells kind).answer database (.executeInside statement) =
      (.ok outcome.affected, outcome.database) := by
  simp [ofCells, Database.answer, Database.answerWith, ran]

theorem answer_executeInside_of_error {fault : DatabaseFault}
    (ran : database.runStatement kind statement = .error fault) :
    (Pool.ofCells kind).answer database (.executeInside statement) =
      (.error fault.error, database) := by
  simp [ofCells, Database.answer, Database.answerWith, ran]

end Pool

end RecordStore
