import RecordStore.Proofs.Sql.Spacing
import RecordStore.Sql.Command

/-!
# Reading conditions back

A condition without a comparison is not written, and the first condition of every list is written
without its connector. What is written of conditions in a dialect (`Predicate.writtenConditions`) is
what the reader of commands makes of their tokens (`Command.conditions_spelled`), at any depth.
-/

namespace RecordStore

/-! ## What is written of conditions -/

/-- The comparison that a dialect has for one; without a match that ignores case, any match does. -/
def Dialect.writtenComparison : Dialect → Comparison → Comparison
  | sqlite, .likeAnyCase => .like
  | _, comparison => comparison

namespace Predicate

mutual

/-- The comparisons of a predicate at any depth, from left to right. -/
def comparisons : Predicate → List Predicate
  | .compare column comparison value => [.compare column comparison value]
  | .isNull column => [.isNull column]
  | .group conditions => allComparisons conditions

/-- The comparisons of conditions, from left to right. -/
def allComparisons : List (Connector × Predicate) → List Predicate
  | [] => []
  | (_, predicate) :: rest => predicate.comparisons ++ allComparisons rest

end

/-- Conditions of which the first is joined by `AND`; its connector says nothing. -/
def firstByAnd (conditions : List Condition) : List Condition :=
  conditions.modifyHead fun condition => (.and, condition.2)

mutual

/-- What a dialect writes of a predicate. -/
def written (dialect : Dialect) : Predicate → Predicate
  | .compare column comparison value => .compare column (dialect.writtenComparison comparison) value
  | .isNull column => .isNull column
  | .group conditions => .group (firstByAnd (writtenConditions dialect conditions))

/-- What a dialect writes of conditions: those that have a comparison. -/
def writtenConditions (dialect : Dialect) : List (Connector × Predicate) →
    List (Connector × Predicate)
  | [] => []
  | (connector, predicate) :: rest =>
    if predicate.comparisons.isEmpty then writtenConditions dialect rest
    else (connector, written dialect predicate) :: writtenConditions dialect rest

end

mutual

/-- A predicate is empty when it has no comparison. -/
theorem isEmpty_eq (predicate : Predicate) : predicate.isEmpty = predicate.comparisons.isEmpty := by
  cases predicate with
  | compare => rfl
  | isNull => rfl
  | group conditions => exact allEmpty_eq conditions

theorem allEmpty_eq (conditions : List Condition) :
    allEmpty conditions = (allComparisons conditions).isEmpty := by
  cases conditions with
  | nil => rfl
  | cons condition rest =>
    obtain ⟨connector, predicate⟩ := condition
    rw [allEmpty, allComparisons, isEmpty_eq predicate, allEmpty_eq rest]
    cases predicate.comparisons <;> rfl

end

/-- Nothing is written of empty conditions. -/
theorem writtenConditions_of_allEmpty (dialect : Dialect) {conditions : List Condition}
    (empty : allEmpty conditions = true) : writtenConditions dialect conditions = [] := by
  induction conditions with
  | nil => rfl
  | cons condition rest ih =>
    obtain ⟨connector, predicate⟩ := condition
    rw [allEmpty, Bool.and_eq_true, isEmpty_eq] at empty
    rw [writtenConditions, if_pos empty.1, ih empty.2]

end Predicate

/-! ## Tokens of fragments -/

/-- The keyword of a connector. -/
def Connector.word : Connector → String
  | and => "AND"
  | or => "OR"

/-- The tokens of fragments with the parameters in their places. -/
def spelled (dialect : Dialect) (fragments : List Fragment) : List SqlToken :=
  fragments.flatMap (Fragment.tokens dialect .value)

section Spelled

variable (dialect : Dialect)

theorem spelled_cons (fragment : Fragment) (rest : List Fragment) :
    spelled dialect (fragment :: rest) = fragment.tokens dialect .value ++ spelled dialect rest :=
  List.flatMap_cons

theorem spelled_append (front back : List Fragment) :
    spelled dialect (front ++ back) = spelled dialect front ++ spelled dialect back :=
  List.flatMap_append

theorem spelled_name (identifier : String) (rest : List Fragment) :
    spelled dialect (.name identifier :: rest) = .name identifier :: spelled dialect rest := rfl

/-- Words are spelled as the tokens that they are cut into. -/
theorem spelled_words (text : String) (tokens : List SqlToken)
    (scanned : SqlToken.scan text.toList = some tokens) (rest : List Fragment) :
    spelled dialect (.words text :: rest) = tokens ++ spelled dialect rest := by
  rw [spelled_cons, Fragment.tokens, scanned, Option.getD_some]

theorem spelled_connector (connector : Connector) (rest : List Fragment) :
    spelled dialect (.words connector.text :: rest) =
      .word connector.word :: spelled dialect rest := by
  cases connector with
  | and => exact spelled_words dialect " AND " [.word "AND"] rfl rest
  | or => exact spelled_words dialect " OR " [.word "OR"] rfl rest

/-- Groups with commas between the fragments have comma tokens between the spelled groups. -/
theorem spelled_separated (groups : List (List Fragment)) :
    spelled dialect (separated ", " groups) =
      [SqlToken.symbol ","].intercalate (groups.map (spelled dialect)) := by
  induction groups with
  | nil => rfl
  | cons first others ih =>
    cases others with
    | nil => simp [separated]
    | cons second others =>
      have split : separated ", " (first :: second :: others) =
          first ++ .words ", " :: separated ", " (second :: others) := rfl
      rw [split, spelled_append, spelled_words dialect ", " [.symbol ","] rfl, ih]
      simp [List.intercalate]

/-- A group is spelled with parentheses around its conditions. -/
theorem spelled_group (conditions : List Condition) :
    spelled dialect (Predicate.group conditions).fragments =
      .symbol "(" :: (spelled dialect (conditionFragments true conditions) ++ [.symbol ")"]) := by
  rw [Predicate.fragments, List.cons_append, spelled_words dialect "(" [.symbol "("] rfl,
    spelled_append, spelled_words dialect ")" [.symbol ")"] rfl]
  rfl

/-- A condition that is not empty is spelled after its connector, unless it is the first. -/
theorem spelled_condition {first : Bool} {connector : Connector}
    {predicate : Predicate} (written : predicate.isEmpty = false) (others : List Condition) :
    spelled dialect (conditionFragments first ((connector, predicate) :: others)) =
      (if first then [] else [.word connector.word]) ++
        (spelled dialect predicate.fragments ++
          spelled dialect (conditionFragments false others)) := by
  rw [conditionFragments, if_neg (by simp [written]), List.append_assoc, spelled_append,
    spelled_append]
  cases first with
  | true => rfl
  | false =>
    have connectorWord : spelled dialect [.words connector.text] = [.word connector.word] :=
      spelled_connector dialect connector []
    simp [connectorWord]

end Spelled

namespace Query

variable (query : Query) (dialect : Dialect)

theorem spelled_select (kind : query.kind = .select) :
    spelled dialect query.fragments =
      .word "SELECT" :: .symbol "*" :: (spelled dialect query.fromFragments ++
        (spelled dialect query.whereFragments ++
          (spelled dialect query.orderFragments ++ spelled dialect query.pageFragments))) := by
  simp only [fragments, kind, List.cons_append, spelled_append, List.append_assoc, List.nil_append,
    spelled_words dialect "SELECT *" [.word "SELECT", .symbol "*"] rfl]

theorem spelled_count (kind : query.kind = .count) :
    spelled dialect query.fragments =
      .word "SELECT" :: .word "COUNT" :: .symbol "(" :: .symbol "*" :: .symbol ")" :: .word "AS" ::
        .name "count" :: (spelled dialect query.fromFragments ++
          spelled dialect query.whereFragments) := by
  simp only [fragments, kind, List.cons_append, spelled_append, spelled_name, List.nil_append,
    spelled_words dialect "SELECT COUNT(*) AS " [.word "SELECT", .word "COUNT", .symbol "(",
      .symbol "*", .symbol ")", .word "AS"] rfl]

theorem spelled_delete (kind : query.kind = .delete) :
    spelled dialect query.fragments =
      .word "DELETE" :: .word "FROM" :: (spelled dialect query.targetFragments ++
        spelled dialect query.whereFragments) := by
  simp only [fragments, kind, List.cons_append, spelled_append, List.nil_append,
    spelled_words dialect "DELETE FROM " [.word "DELETE", .word "FROM"] rfl]

end Query

/-! ## Reading conditions -/

namespace Command

/-- No condition follows. -/
def NoConnector (tokens : List SqlToken) : Prop :=
  ∀ connector : Connector, ∀ rest, tokens ≠ .word connector.word :: rest

theorem noConnector_nil : NoConnector [] := fun _ _ same => nomatch same

theorem noConnector_symbol (text : String) (rest : List SqlToken) :
    NoConnector (.symbol text :: rest) := fun _ _ same => nomatch same

/-- Reads the conditions that follow one, each after its connector. -/
def moreConditions (limit : Nat) : Reader (List Condition)
  | .word "AND" :: rest => conditions limit .and rest
  | .word "OR" :: rest => conditions limit .or rest
  | rest => some ([], rest)

theorem moreConditions_connector (limit : Nat) (connector : Connector) (rest : List SqlToken) :
    moreConditions limit (.word connector.word :: rest) = conditions limit connector rest := by
  cases connector <;> rfl

theorem moreConditions_of_noConnector (limit : Nat) {rest : List SqlToken}
    (ends : NoConnector rest) : moreConditions limit rest = some ([], rest) := by
  unfold moreConditions
  split
  · exact absurd rfl (ends .and _)
  · exact absurd rfl (ends .or _)
  · rfl

/-- Conditions are a predicate and the conditions that follow it. -/
theorem conditions_succ (limit : Nat) (connector : Connector) (tokens : List SqlToken) :
    conditions (limit + 1) connector tokens =
      (predicate limit tokens).bind fun (first, rest) =>
        (moreConditions limit rest).map fun (others, rest) => ((connector, first) :: others, rest) := by
  rw [conditions]
  cases predicate limit tokens with
  | none => rfl
  | some result =>
    obtain ⟨first, rest⟩ := result
    simp only [Option.bind_eq_bind, Option.bind_some]
    split
    · next rest =>
      rw [show moreConditions limit (.word "AND" :: rest) = conditions limit .and rest from rfl]
      cases conditions limit .and rest <;> rfl
    · next rest =>
      rw [show moreConditions limit (.word "OR" :: rest) = conditions limit .or rest from rfl]
      cases conditions limit .or rest <;> rfl
    · next noAnd noOr =>
      have ends : NoConnector rest := by
        intro connector after same
        cases connector with
        | and => exact noAnd after same
        | or => exact noOr after same
      rw [moreConditions_of_noConnector limit ends]
      rfl

theorem comparison_spelled (dialect : Dialect) (kind : Comparison) (rest : List SqlToken) :
    comparison (Fragment.tokens dialect .value (.comparison kind) ++ rest) =
      some (dialect.writtenComparison kind, rest) := by
  cases dialect <;> cases kind <;> rfl

theorem operand_spelled (dialect : Dialect) (value : StoredValue) (rest : List SqlToken) :
    operand (Fragment.tokens dialect .value (.value value) ++ rest) = some (value, rest) := by
  cases value <;> rfl

/-- A column, a comparison and a value are read as a predicate. -/
theorem predicate_of_comparison {limit : Nat} {column : String} {tokens afterKind rest : List SqlToken}
    {kind : Comparison} {value : StoredValue}
    (compared : comparison tokens = some (kind, afterKind))
    (against : operand afterKind = some (value, rest)) :
    predicate (limit + 1) (.name column :: tokens) =
      some (.compare column kind value, rest) := by
  rw [predicate]
  · simp [compared, against]
  · rintro after rfl
    cases compared

theorem predicate_compare (dialect : Dialect) (limit : Nat) (column : String) (kind : Comparison)
    (value : StoredValue) (rest : List SqlToken) :
    predicate (limit + 1) (spelled dialect (Predicate.compare column kind value).fragments ++ rest) =
      some ((Predicate.compare column kind value).written dialect, rest) := by
  have spelling : spelled dialect (Predicate.compare column kind value).fragments ++ rest =
      .name column :: (Fragment.tokens dialect .value (.comparison kind) ++
        (Fragment.tokens dialect .value (.value value) ++ rest)) := by
    rw [Predicate.fragments, spelled_name, spelled_words dialect " " [] rfl, spelled_cons,
      spelled_words dialect " " [] rfl, spelled_cons]
    simp [spelled]
  rw [spelling, Predicate.written]
  exact predicate_of_comparison (comparison_spelled dialect kind _) (operand_spelled dialect value rest)

theorem predicate_isNull (dialect : Dialect) (limit : Nat) (column : String) (rest : List SqlToken) :
    predicate (limit + 1) (spelled dialect (Predicate.isNull column).fragments ++ rest) =
      some ((Predicate.isNull column).written dialect, rest) := by
  rw [Predicate.fragments, spelled_name,
    spelled_words dialect " IS NULL" [.word "IS", .word "NULL"] rfl]
  rfl

/-- Conditions in parentheses are read as a group. -/
theorem predicate_group {limit : Nat} {tokens rest : List SqlToken} {inner : List Condition}
    (found : conditions limit .and tokens = some (inner, .symbol ")" :: rest)) :
    predicate (limit + 1) (.symbol "(" :: tokens) = some (.group inner, rest) := by
  rw [predicate, found]
  rfl

theorem spelled_predicate_pos (dialect : Dialect) (predicate : Predicate) :
    0 < (spelled dialect predicate.fragments).length := by
  cases predicate with
  | compare => simp [Predicate.fragments, spelled_name]
  | isNull => simp [Predicate.fragments, spelled_name]
  | group =>
    rw [spelled_group]
    exact Nat.zero_lt_succ _

/-- A predicate and the conditions after it are read as conditions. -/
theorem conditions_of_predicate {limit : Nat} {connector : Connector} {first : Predicate}
    {others : List Condition} {tokens middle rest : List SqlToken}
    (head : predicate limit tokens = some (first, middle))
    (tail : moreConditions limit middle = some (others, rest)) :
    conditions (limit + 1) connector tokens = some ((connector, first) :: others, rest) := by
  simp only [conditions_succ, head, Option.bind_some, tail, Option.map_some]

mutual

/-- A predicate is read as it is written, given two steps for each of its tokens. -/
theorem predicate_spelled (dialect : Dialect) (predicate : Predicate)
    (written : predicate.isEmpty = false) (limit : Nat)
    (room : 2 * (spelled dialect predicate.fragments).length ≤ limit + 1) (rest : List SqlToken) :
    Command.predicate limit (spelled dialect predicate.fragments ++ rest) =
      some (predicate.written dialect, rest) := by
  have positive := spelled_predicate_pos dialect predicate
  obtain ⟨limit, rfl⟩ := Nat.exists_eq_add_of_le' (show 1 ≤ limit by omega)
  cases predicate with
  | compare column kind value => exact predicate_compare dialect limit column kind value rest
  | isNull column => exact predicate_isNull dialect limit column rest
  | group inner =>
    have inside := conditions_spelled dialect inner written limit
      (by simp only [spelled_group, List.length_cons, List.length_append, List.length_nil] at room; omega)
      (noConnector_symbol ")" rest)
    rw [spelled_group, Predicate.written, List.cons_append, List.append_assoc]
    exact predicate_group inside

theorem moreConditions_spelled (dialect : Dialect) (conditions : List Condition) (limit : Nat)
    (room : 2 * (spelled dialect (conditionFragments false conditions)).length ≤ limit + 1)
    {rest : List SqlToken} (ends : NoConnector rest) :
    moreConditions limit (spelled dialect (conditionFragments false conditions) ++ rest) =
      some (Predicate.writtenConditions dialect conditions, rest) := by
  cases conditions with
  | nil => exact moreConditions_of_noConnector limit ends
  | cons condition others =>
    obtain ⟨connector, predicate⟩ := condition
    rw [Predicate.writtenConditions, ← Predicate.isEmpty_eq]
    cases empty : predicate.isEmpty with
    | true =>
      rw [conditionFragments, if_pos empty] at room ⊢
      exact moreConditions_spelled dialect others limit room ends
    | false =>
      rw [spelled_condition dialect empty] at room ⊢
      simp only [Bool.false_eq_true, if_false, List.length_append, List.length_cons,
        List.length_nil] at room
      obtain ⟨limit, rfl⟩ := Nat.exists_eq_add_of_le' (show 1 ≤ limit by omega)
      have tail := moreConditions_spelled dialect others limit (by omega) ends
      have head := predicate_spelled dialect predicate empty limit (by omega)
        (spelled dialect (conditionFragments false others) ++ rest)
      simp only [Bool.false_eq_true, if_false, List.cons_append, List.nil_append, List.append_assoc]
      rw [moreConditions_connector]
      exact conditions_of_predicate head tail

theorem conditions_spelled (dialect : Dialect) (conditions : List Condition)
    (written : Predicate.allEmpty conditions = false) (limit : Nat)
    (room : 2 * (spelled dialect (conditionFragments true conditions)).length ≤ limit)
    {rest : List SqlToken} (ends : NoConnector rest) :
    Command.conditions limit .and (spelled dialect (conditionFragments true conditions) ++ rest) =
      some (Predicate.firstByAnd (Predicate.writtenConditions dialect conditions), rest) := by
  cases conditions with
  | nil => cases written
  | cons condition others =>
    obtain ⟨connector, predicate⟩ := condition
    rw [Predicate.writtenConditions, ← Predicate.isEmpty_eq]
    cases empty : predicate.isEmpty with
    | true =>
      rw [conditionFragments, if_pos empty] at room ⊢
      rw [Predicate.allEmpty, empty, Bool.true_and] at written
      exact conditions_spelled dialect others written limit room ends
    | false =>
      have positive := spelled_predicate_pos dialect predicate
      rw [spelled_condition dialect empty] at room ⊢
      simp only [if_true, List.nil_append, List.length_append] at room
      obtain ⟨limit, rfl⟩ := Nat.exists_eq_add_of_le' (show 1 ≤ limit by omega)
      have tail := moreConditions_spelled dialect others limit (by omega) ends
      have head := predicate_spelled dialect predicate empty limit (by omega)
        (spelled dialect (conditionFragments false others) ++ rest)
      simp only [if_true, List.nil_append, List.append_assoc]
      exact conditions_of_predicate head tail

end

end Command

end RecordStore
