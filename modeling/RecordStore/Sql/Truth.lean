import RecordStore.Sql.Query

/-!
# Truth of conditions

A comparison with null is neither true nor false. Conditions are read as their text is: `AND` binds
tighter than `OR`, and the connector of the first condition does not matter.
-/

namespace RecordStore

/-- True, false or, as nothing, unknown. -/
abbrev Truth := Option Bool

namespace Truth

/-- True when both are, false when one is. -/
def and : Truth → Truth → Truth
  | some false, _ => some false
  | _, some false => some false
  | some true, some true => some true
  | _, _ => none

/-- True when one is, false when both are. -/
def or : Truth → Truth → Truth
  | some true, _ => some true
  | _, some true => some true
  | some false, some false => some false
  | _, _ => none

end Truth

/-- The truth of the predicates that are not groups. -/
structure LeafTruth where
  compare : String → Comparison → StoredValue → Truth
  isNull : String → Truth

mutual

/-- The truth of a predicate. -/
def Predicate.truth (leaves : LeafTruth) : Predicate → Truth
  | .compare column comparison value => leaves.compare column comparison value
  | .isNull column => leaves.isNull column
  | .group [] => some true
  | .group ((_, first) :: rest) => Predicate.runTruth leaves (first.truth leaves) rest

/-- The truth of a run of conditions joined by `AND` up to here, together with the conditions that
follow. A condition joined by `OR` ends the run and begins another. -/
def Predicate.runTruth (leaves : LeafTruth) (run : Truth) : List (Connector × Predicate) → Truth
  | [] => run
  | (.and, predicate) :: rest =>
    Predicate.runTruth leaves (run.and (predicate.truth leaves)) rest
  | (.or, predicate) :: rest =>
    run.or (Predicate.runTruth leaves (predicate.truth leaves) rest)

end

/-- The truth of conditions; without any, everything is true. -/
def conditionsTruth (leaves : LeafTruth) (conditions : List Condition) : Truth :=
  (Predicate.group conditions).truth leaves

end RecordStore
