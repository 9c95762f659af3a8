import RecordStore.Memory.Database
import RecordStore.Proofs.Search.DateBounds
import RecordStore.Proofs.Time.Order

/-!
# Timestamps in cells

A store without a kind for instants keeps them as text, and its comparisons of texts are comparisons of
the instants: in the years 0 to 9999 the bytes of the texts are in the order of time, to the nanosecond
and through leap seconds, so that the leaves that bound dates find the rows that they ask for
(`Cell.instants_inTimeOrder`).
-/

namespace RecordStore

namespace Instant

theorem timeOrder_swap (left right : Instant) :
    (left.timeOrder right).swap = right.timeOrder left := by
  rw [timeOrder, Ordering.swap_then, Int.compare_swap, Nat.compare_swap, timeOrder]

theorem timeOrder_eq_lt_iff (left right : Instant) :
    left.timeOrder right = .lt ↔ left.isBefore right = true := by
  simp [timeOrder, isBefore, Ordering.then_eq_lt, Int.compare_eq_lt, Nat.compare_eq_lt]

theorem timeOrder_eq_gt_iff (left right : Instant) :
    left.timeOrder right = .gt ↔ right.isBefore left = true := by
  rw [← timeOrder_swap, Ordering.swap_eq_gt, timeOrder_eq_lt_iff]

theorem timeOrder_eq_eq_iff (left right : Instant) : left.timeOrder right = .eq ↔ left = right := by
  rw [timeOrder, Ordering.then_eq_eq, Int.compare_eq_eq, Nat.compare_eq_eq]
  constructor
  · rintro ⟨second, nanos⟩
    exact eq_of_second_of_nanos second nanos
  · rintro rfl
    exact ⟨rfl, rfl⟩

end Instant

namespace Cell

section Instants

variable {left right : Instant}

theorem order_texts (text other : String) :
    kind.order (.text text) (.text other) = Text.codeOrder text.toList other.toList := rfl

/-- Comparisons of cells that keep instants are comparisons of the instants. -/
theorem compares_instants (short : left.HasShortYear) (short' : right.HasShortYear)
    {comparison : Comparison} (noPattern : comparison ≠ .like ∧ comparison ≠ .likeAnyCase) :
    kind.compares comparison (ofStored (.instant left)) (ofStored (.instant right)) =
      some (comparison.holdsOfInstants left right) := by
  have present (text : String) : kind.isNull (.text text) = false := rfl
  have equal : (left.timeOrder right == .eq) = decide (left = right) := by
    rw [Bool.eq_iff_iff, beq_iff_eq, decide_eq_true_eq, Instant.timeOrder_eq_eq_iff]
  have less : (left.timeOrder right == .lt) = left.isBefore right := by
    rw [Bool.eq_iff_iff, beq_iff_eq, Instant.timeOrder_eq_lt_iff]
  have greater : (left.timeOrder right == .gt) = right.isBefore left := by
    rw [Bool.eq_iff_iff, beq_iff_eq, Instant.timeOrder_eq_gt_iff]
  rw [ofStored, ofStored, CellKind.compares.eq_def, present, present, order_texts,
    Instant.codeOrder_toOffsetText short short']
  cases comparison with
  | like => exact absurd rfl noPattern.1
  | likeAnyCase => exact absurd rfl noPattern.2
  | equal => exact congrArg some equal
  | less => exact congrArg some less
  | lessOrEqual => exact congrArg (fun holds => some (!holds)) greater
  | greater => exact congrArg some greater
  | greaterOrEqual => exact congrArg (fun holds => some (!holds)) less

/-- A comparison with an instant says of a row that keeps another one how the two compare. -/
theorem truth_compare_instant (short : left.HasShortYear) (short' : right.HasShortYear)
    {comparison : Comparison} (noPattern : comparison ≠ .like ∧ comparison ≠ .likeAnyCase)
    {table : Table Cell} {row : List Cell} {column : String}
    (kept : table.cell kind row column = ofStored (.instant left)) :
    (Predicate.compare column comparison (.instant right)).truth (table.leafTruth kind row) =
      some (comparison.holdsOfInstants left right) := by
  have compares := compares_instants short short' noPattern
  rw [← kept] at compares
  exact compares

/-- In the years 0 to 9999, the bytes of the texts that instants are bound as are in the order of time,
and different instants have different texts. So the leaves that bound the dates of a column hold of the
rows whose instants are before or after the bound, or on it if it is included. -/
theorem instants_inTimeOrder (short : left.HasShortYear) (short' : right.HasShortYear) :
    ∃ text other, ofStored (.instant left) = .text text ∧ ofStored (.instant right) = .text other ∧
      (Text.utf8 text < Text.utf8 other ↔ left.isBefore right = true) ∧
      (Text.utf8 text = Text.utf8 other ↔ left = right) ∧
      ∀ (registry : CodecRegistry) (definition : ModelDefinition) (key : String) (date : Instant)
        (inclusive : Bool) (table : Table Cell) (row : List Cell),
        dateValue registry definition key date = .instant right →
        table.cell kind row key = ofStored (.instant left) →
        ((Leaf.datesBefore key date inclusive).predicate registry definition).truth
            (table.leafTruth kind row) =
          some (if inclusive then !right.isBefore left else left.isBefore right) ∧
        ((Leaf.datesAfter key date inclusive).predicate registry definition).truth
            (table.leafTruth kind row) =
          some (if inclusive then !left.isBefore right else right.isBefore left) := by
  have order := Instant.codeOrder_toOffsetText short short'
  refine ⟨left.toOffsetText, right.toOffsetText, rfl, rfl, ?_, ?_, ?_⟩
  · rw [Text.utf8_lt_iff, order, Instant.timeOrder_eq_lt_iff]
  · rw [Text.utf8_eq_iff, order, Instant.timeOrder_eq_eq_iff]
  · intro registry definition key date inclusive table row bound kept
    rw [Leaf.predicate, Leaf.predicate, bound]
    cases inclusive
    all_goals
      exact ⟨truth_compare_instant short short' (by decide) kept,
        truth_compare_instant short short' (by decide) kept⟩

/-- The beginning of a leap second has no fraction, and its text is still before that of an instant half
a microsecond into the leap second: the plus sign of the one comes before the point of the other. -/
theorem instants_inTimeOrder_leapSecond :
    let left : Instant := ⟨1483228799, 1000000000, by decide, by decide, by decide⟩
    let right : Instant := ⟨1483228799, 1000000500, by decide, by decide, by decide⟩
    let definition : ModelDefinition :=
      ⟨"Event", [⟨"id", .uniqueId, true⟩], ⟨0, by decide⟩, by decide, by decide⟩
    let table : Table Cell := ⟨["id", "seen"], "id", []⟩
    let row : List Cell := [.text "e", .text "2016-12-31T23:59:60+00:00"]
    left.HasShortYear ∧ right.HasShortYear ∧
      Text.utf8 "2016-12-31T23:59:60+00:00" < Text.utf8 "2016-12-31T23:59:60.000000500+00:00" ∧
      dateValue .default definition "seen" right = .instant right ∧
      table.cell kind row "seen" = ofStored (.instant left) ∧
      ((Leaf.datesBefore "seen" right false).predicate .default definition).truth
        (table.leafTruth kind row) = some true := by
  intro left right definition table row
  have short : left.HasShortYear := by decide
  have short' : right.HasShortYear := by decide
  have texts : left.toOffsetText = "2016-12-31T23:59:60+00:00" ∧
      right.toOffsetText = "2016-12-31T23:59:60.000000500+00:00" := by decide
  have bound : dateValue .default definition "seen" right = .instant right := rfl
  have kept : table.cell kind row "seen" = ofStored (.instant left) := by
    rw [ofStored, texts.1]
    rfl
  obtain ⟨text, other, same, same', bytes, -, leaves⟩ := instants_inTimeOrder short short'
  have isText : left.toOffsetText = text := Cell.text.inj same
  have isOther : right.toOffsetText = other := Cell.text.inj same'
  rw [← isText, ← isOther, texts.1, texts.2] at bytes
  have found := (leaves .default definition "seen" right false table row bound kept).1
  exact ⟨short, short', bytes.2 (by decide), bound, kept, found⟩

end Instants

end Cell

end RecordStore
