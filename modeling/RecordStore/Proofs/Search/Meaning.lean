import RecordStore.Proofs.Search.Validity
import RecordStore.Search.Compilation
import RecordStore.Sql.Statement
import RecordStore.Sql.Truth

/-!
# The meaning of a search

The meaning of a sequence of tokens does not mention SQL: the sequence is cut at its OR links, each run
between two cuts is true when all its values are, and the sequence is true when one of its runs is. A
group means what its own sequence means.

The main statement is that the conditions of a compiled search, read with the precedence of SQL, have
the truth of the tokens (`Search.conditionsTruth_compile`). Both sides are brought to the same form, a
disjunction of conjunctions: conditions by `Truth.chain`, tokens by `Token.runTruths`.
-/

namespace RecordStore

/-! ## Conjunctions and disjunctions -/

namespace Truth

/-- True when all of the truths are. -/
def conjunction : List Truth → Truth
  | [] => some true
  | first :: rest => first.and (conjunction rest)

/-- True when one of the truths is. -/
def disjunction : List Truth → Truth
  | [] => some false
  | first :: rest => first.or (disjunction rest)

@[simp] theorem true_and (truth : Truth) : Truth.and (some true) truth = truth := by
  rcases truth with _ | _ | _ <;> rfl

@[simp] theorem and_true (truth : Truth) : truth.and (some true) = truth := by
  rcases truth with _ | _ | _ <;> rfl

@[simp] theorem or_false (truth : Truth) : truth.or (some false) = truth := by
  rcases truth with _ | _ | _ <;> rfl

theorem and_assoc (a b c : Truth) : (a.and b).and c = a.and (b.and c) := by
  rcases a with _ | _ | _ <;> rcases b with _ | _ | _ <;> rcases c with _ | _ | _ <;> rfl

/-- The truth of conditions that follow a run which is true as `run` tells: `AND` goes on with the run
and `OR` ends it. -/
def chain (run : Truth) : List (Connector × Truth) → Truth
  | [] => run
  | (.and, truth) :: rest => chain (run.and truth) rest
  | (.or, truth) :: rest => run.or (chain truth rest)

/-- Conditions that are all joined by `AND` add their conjunction to the run. -/
theorem chain_append_of_and {joined : List (Connector × Truth)}
    (and : ∀ entry ∈ joined, entry.1 = Connector.and) (run : Truth)
    (rest : List (Connector × Truth)) :
    chain run (joined ++ rest) = chain (run.and (conjunction (joined.map (·.2)))) rest := by
  induction joined generalizing run with
  | nil => simp [conjunction]
  | cons entry joined ih =>
    obtain ⟨connector, truth⟩ := entry
    obtain rfl : connector = .and := and _ List.mem_cons_self
    have tail := ih (fun other member => and other (List.mem_cons_of_mem _ member))
    simp only [List.cons_append, chain, tail, List.map_cons, conjunction, and_assoc]

end Truth

/-! ## The truth of conditions as a chain -/

/-- The truth of each condition with its connector. -/
def conditionTruths (leaves : LeafTruth) (conditions : List Condition) :
    List (Connector × Truth) :=
  conditions.map fun condition => (condition.1, condition.2.truth leaves)

theorem Predicate.runTruth_eq_chain (leaves : LeafTruth) (run : Truth)
    (conditions : List Condition) :
    Predicate.runTruth leaves run conditions = Truth.chain run (conditionTruths leaves conditions) := by
  induction conditions generalizing run with
  | nil => rfl
  | cons condition rest ih =>
    obtain ⟨connector, predicate⟩ := condition
    cases connector with
    | and => simpa only [Predicate.runTruth, conditionTruths, List.map_cons, Truth.chain] using ih _
    | or =>
      simp only [Predicate.runTruth, conditionTruths, List.map_cons, Truth.chain]
      rw [ih, conditionTruths]

/-- The connector of the first condition does not matter, so it may as well be `AND` after a run that
is true. -/
theorem conditionsTruth_eq_chain (leaves : LeafTruth) {conditions : List Condition}
    (head : ∀ condition ∈ conditions.head?, condition.1 = Connector.and) :
    conditionsTruth leaves conditions =
      Truth.chain (some true) (conditionTruths leaves conditions) := by
  cases conditions with
  | nil => rfl
  | cons condition rest =>
    obtain ⟨connector, predicate⟩ := condition
    obtain rfl : connector = .and := head _ rfl
    simp only [conditionsTruth, Predicate.truth, Predicate.runTruth_eq_chain, conditionTruths,
      List.map_cons, Truth.chain, Truth.true_and]

/-! ## The meaning of tokens -/

namespace Token

/-- The values of a sequence, cut at its OR links into runs. -/
def runs : List Token → List (List Token)
  | [] => [[]]
  | .or :: rest => [] :: runs rest
  | .and :: rest => runs rest
  | token :: rest => (runs rest).modifyHead (token :: ·)

section Truths

variable (leafTruth : Leaf → Truth)

mutual

/-- The truth of a value: a leaf has its own and a group that of its sequence. A link has none. -/
def truth : Token → Truth
  | .leaf value => leafTruth value
  | .and => some true
  | .or => some true
  | .group tokens => .disjunction ((runTruths tokens).map .conjunction)

/-- The truths of the values of a sequence, cut at its OR links into runs. -/
def runTruths : List Token → List (List Truth)
  | [] => [[]]
  | .or :: rest => [] :: runTruths rest
  | .and :: rest => runTruths rest
  | token :: rest => (runTruths rest).modifyHead (truth token :: ·)

end

/-- The truth of a sequence: that of all values of a run, for one of its runs. -/
def sequenceTruth (tokens : List Token) : Truth :=
  .disjunction ((runs tokens).map fun run => .conjunction (run.map (truth leafTruth)))

theorem runTruths_eq_map_runs (tokens : List Token) :
    runTruths leafTruth tokens = (runs tokens).map fun run => run.map (truth leafTruth) := by
  have consistent (token : Token) (rest : List (List Token)) :
      (rest.map fun run => run.map (truth leafTruth)).modifyHead (truth leafTruth token :: ·) =
        (rest.modifyHead (token :: ·)).map fun run => run.map (truth leafTruth) := by
    cases rest <;> rfl
  induction tokens with
  | nil => rfl
  | cons token rest ih =>
    cases token with
    | leaf value => simp only [runTruths, runs, ih, consistent]
    | and => simpa only [runTruths, runs] using ih
    | or => simp only [runTruths, runs, ih, List.map_cons, List.map_nil]
    | group tokens => simp only [runTruths, runs, ih, consistent]

/-- A group means what its sequence means. -/
theorem truth_group (tokens : List Token) :
    truth leafTruth (.group tokens) = sequenceTruth leafTruth tokens := by
  simp only [truth, sequenceTruth, runTruths_eq_map_runs, List.map_map]
  rfl

end Truths

/-! ## Runs and conditions -/

/-- Without links there is one run, of all the tokens. -/
theorem runTruths_of_unlinked (leafTruth : Leaf → Truth) {tokens : List Token}
    (unlinked : tokens.any isLink = false) :
    runTruths leafTruth tokens = [tokens.map (truth leafTruth)] := by
  induction tokens with
  | nil => rfl
  | cons token rest ih =>
    simp only [List.any_cons, Bool.or_eq_false_iff] at unlinked
    cases token with
    | and => cases unlinked.1
    | or => cases unlinked.1
    | leaf value => simp [runTruths, ih unlinked.2]
    | group tokens => simp [runTruths, ih unlinked.2]

/-- The truth of runs of which the first goes on with a run that is true as `run` tells. -/
def continuedTruth (run : Truth) : List (List Truth) → Truth
  | [] => run
  | first :: others =>
    (run.and (.conjunction first)).or (.disjunction (others.map .conjunction))

theorem disjunction_eq_continuedTruth {runs : List (List Truth)} (nonempty : runs ≠ []) :
    Truth.disjunction (runs.map .conjunction) = continuedTruth (some true) runs := by
  cases runs with
  | nil => exact absurd rfl nonempty
  | cons first others => simp only [List.map_cons, Truth.disjunction, continuedTruth, Truth.true_and]

theorem runTruths_ne_nil (leafTruth : Leaf → Truth) (tokens : List Token) :
    runTruths leafTruth tokens ≠ [] := by
  induction tokens with
  | nil => simp [runTruths]
  | cons token rest ih =>
    cases token with
    | leaf value => simpa [runTruths] using ih
    | and => simpa [runTruths] using ih
    | or => simp [runTruths]
    | group tokens => simpa [runTruths] using ih

/-- A value joins the run that is under way. -/
theorem continuedTruth_value (leafTruth : Leaf → Truth) (run : Truth) {value : Token}
    (isValue : value.isLink = false) (rest : List Token) :
    continuedTruth run (runTruths leafTruth (value :: rest)) =
      continuedTruth (run.and (truth leafTruth value)) (runTruths leafTruth rest) := by
  have step : runTruths leafTruth (value :: rest) =
      (runTruths leafTruth rest).modifyHead (truth leafTruth value :: ·) := by
    cases value <;> first | rfl | cases isValue
  rw [step]
  cases tail : runTruths leafTruth rest with
  | nil => exact absurd tail (runTruths_ne_nil leafTruth rest)
  | cons first others =>
    simp only [List.modifyHead_cons, continuedTruth, Truth.conjunction, Truth.and_assoc]

/-- An OR link ends the run that is under way. -/
theorem continuedTruth_or (leafTruth : Leaf → Truth) (run : Truth) (rest : List Token) :
    continuedTruth run (runTruths leafTruth (.or :: rest)) =
      run.or (continuedTruth (some true) (runTruths leafTruth rest)) := by
  rw [← disjunction_eq_continuedTruth (runTruths_ne_nil leafTruth rest)]
  simp only [runTruths, continuedTruth, Truth.conjunction, Truth.and_true]

/-! ## The truth of compiled conditions -/

section Compiled

variable (predicate : Leaf → Predicate) (leaves : LeafTruth)

/-- The truth of a leaf is that of its predicate. -/
def leafTruth (leaf : Leaf) : Truth := (predicate leaf).truth leaves

mutual

/-- Conditions outside of a sequence with links are joined by `AND`. -/
theorem connector_of_mem_conditions {token : Token} {condition : Condition}
    (member : condition ∈ conditions predicate token) : condition.1 = .and := by
  cases token with
  | leaf value =>
    simp only [conditions, List.mem_singleton] at member
    rw [member]
  | and => simp [conditions] at member
  | or => simp [conditions] at member
  | group tokens =>
    simp only [conditions] at member
    split at member
    · rw [List.mem_singleton.1 member]
    · exact connector_of_mem_plainConditions member

/-- Conditions of a sequence without links are joined by `AND`. -/
theorem connector_of_mem_plainConditions {tokens : List Token} {condition : Condition}
    (member : condition ∈ plainConditions predicate tokens) : condition.1 = .and := by
  cases tokens with
  | nil => simp [plainConditions] at member
  | cons token rest =>
    simp only [plainConditions, List.mem_append] at member
    rcases member with member | member
    · exact connector_of_mem_conditions member
    · exact connector_of_mem_plainConditions member

end

theorem connector_of_mem_conditionTruths {conditions : List Condition}
    (and : ∀ condition ∈ conditions, condition.1 = Connector.and) :
    ∀ entry ∈ conditionTruths leaves conditions, entry.1 = Connector.and := by
  intro entry member
  obtain ⟨condition, source, rfl⟩ := List.mem_map.1 member
  exact and condition source

/-- Conditions that are all joined by `AND` have the truth of their conjunction. -/
theorem chain_of_and {conditions : List Condition}
    (and : ∀ condition ∈ conditions, condition.1 = Connector.and) (run : Truth) :
    Truth.chain run (conditionTruths leaves conditions) =
      run.and (.conjunction ((conditionTruths leaves conditions).map (·.2))) := by
  have joined := Truth.chain_append_of_and (connector_of_mem_conditionTruths leaves and) run []
  simpa only [List.append_nil, Truth.chain] using joined

/-- A value of a sequence with links stands in parentheses after the link before it. -/
theorem linkedConditions_value (pending : Connector) {value : Token} (isValue : value.isLink = false)
    (rest : List Token) :
    linkedConditions predicate pending (value :: rest) =
      (pending, .group (isolatedConditions predicate value)) ::
        linkedConditions predicate .and rest := by
  cases value with
  | and => cases isValue
  | or => cases isValue
  | leaf => simp only [linkedConditions]
  | group => simp only [linkedConditions]

theorem head_connector_linkedConditions {tokens : List Token}
    (head : tokens.head?.any isLink = false) :
    ∀ condition ∈ (linkedConditions predicate .and tokens).head?, condition.1 = .and := by
  intro condition member
  cases tokens with
  | nil => simp [linkedConditions] at member
  | cons token rest =>
    rw [linkedConditions_value predicate .and head] at member
    cases member
    rfl

/-- Conditions that continue every run as the runs of a sequence do have, by themselves, the truth of
the sequence. -/
theorem conditionsTruth_of_continues {conditions : List Condition} {tokens : List Token}
    (head : ∀ condition ∈ conditions.head?, condition.1 = Connector.and)
    (continues : ∀ run, Truth.chain run (conditionTruths leaves conditions) =
      continuedTruth run (runTruths (leafTruth predicate leaves) tokens)) :
    conditionsTruth leaves conditions = truth (leafTruth predicate leaves) (.group tokens) := by
  rw [conditionsTruth_eq_chain leaves head, continues, truth,
    disjunction_eq_continuedTruth (runTruths_ne_nil _ tokens)]

/-- A value of a sequence with links is joined by the link before it, as the conditions of the value
by itself. -/
theorem chain_linkedConditions_value {value : Token} (isValue : value.isLink = false)
    (isolated : conditionsTruth leaves (isolatedConditions predicate value) =
      truth (leafTruth predicate leaves) value)
    (pending : Connector) (run : Truth) (rest : List Token) :
    Truth.chain run (conditionTruths leaves (linkedConditions predicate pending (value :: rest))) =
      Truth.chain run ((pending, truth (leafTruth predicate leaves) value) ::
        conditionTruths leaves (linkedConditions predicate .and rest)) := by
  have group : (Predicate.group (isolatedConditions predicate value)).truth leaves =
      truth (leafTruth predicate leaves) value := isolated
  rw [linkedConditions_value predicate pending isValue]
  simp only [conditionTruths, List.map_cons, group]

mutual

/-- The conditions of an accepted value among others add the truth of the value to the run. -/
theorem chain_conditions {token : Token} (accepted : token.check = .ok ())
    (isValue : token.isLink = false) (run : Truth) :
    Truth.chain run (conditionTruths leaves (conditions predicate token)) =
      run.and (truth (leafTruth predicate leaves) token) := by
  cases token with
  | and => cases isValue
  | or => cases isValue
  | leaf value => rfl
  | group tokens =>
    obtain ⟨-, links, members⟩ := check_group_eq_ok_iff.1 accepted
    by_cases linked : tokens.any isLink = true
    · obtain ⟨followed, head⟩ := checkLinks_eq_ok_iff.1 links
      have inner : (Predicate.group (linkedConditions predicate .and tokens)).truth leaves =
          truth (leafTruth predicate leaves) (.group tokens) :=
        conditionsTruth_of_continues predicate leaves
          (head_connector_linkedConditions predicate head)
          (chain_linkedConditions members followed)
      simp only [conditions, linked, if_true, conditionTruths, List.map_cons, List.map_nil,
        Truth.chain, inner]
    · have unlinked : tokens.any isLink = false := by simpa using linked
      rw [conditions, if_neg linked, chain_plainConditions members unlinked, truth,
        runTruths_of_unlinked (leafTruth predicate leaves) unlinked]
      simp only [continuedTruth, List.map_cons, List.map_nil, Truth.disjunction, Truth.or_false]

/-- The conditions of accepted tokens without links continue a run as the tokens do. -/
theorem chain_plainConditions {tokens : List Token} (accepted : checkAll tokens = .ok ())
    (unlinked : tokens.any isLink = false) (run : Truth) :
    Truth.chain run (conditionTruths leaves (plainConditions predicate tokens)) =
      continuedTruth run (runTruths (leafTruth predicate leaves) tokens) := by
  cases tokens with
  | nil =>
    simp [plainConditions, conditionTruths, Truth.chain, runTruths, continuedTruth,
      Truth.conjunction, Truth.disjunction]
  | cons token rest =>
    obtain ⟨first, others⟩ := checkAll_cons_eq_ok_iff.1 accepted
    simp only [List.any_cons, Bool.or_eq_false_iff] at unlinked
    have joined : ∀ entry ∈ conditionTruths leaves (conditions predicate token),
        entry.1 = Connector.and :=
      connector_of_mem_conditionTruths leaves fun _ => connector_of_mem_conditions predicate
    have value := chain_conditions first unlinked.1 run
    rw [chain_of_and leaves fun _ => connector_of_mem_conditions predicate] at value
    have split : conditionTruths leaves (plainConditions predicate (token :: rest)) =
        conditionTruths leaves (conditions predicate token) ++
          conditionTruths leaves (plainConditions predicate rest) := List.map_append
    rw [split, Truth.chain_append_of_and joined, value, chain_plainConditions others unlinked.2,
      continuedTruth_value _ _ unlinked.1]

/-- The conditions of an accepted value by itself have the truth of the value. -/
theorem conditionsTruth_isolatedConditions {token : Token} (accepted : token.check = .ok ())
    (isValue : token.isLink = false) :
    conditionsTruth leaves (isolatedConditions predicate token) =
      truth (leafTruth predicate leaves) token := by
  cases token with
  | and => cases isValue
  | or => cases isValue
  | leaf value => rfl
  | group tokens =>
    obtain ⟨-, links, members⟩ := check_group_eq_ok_iff.1 accepted
    by_cases linked : tokens.any isLink = true
    · obtain ⟨followed, head⟩ := checkLinks_eq_ok_iff.1 links
      rw [isolatedConditions, if_pos linked]
      exact conditionsTruth_of_continues predicate leaves
        (head_connector_linkedConditions predicate head)
        (chain_linkedConditions members followed)
    · have unlinked : tokens.any isLink = false := by simpa using linked
      rw [isolatedConditions, if_neg linked]
      exact conditionsTruth_of_continues predicate leaves
        (fun _ member => connector_of_mem_plainConditions predicate (List.mem_of_mem_head? member))
        (chain_plainConditions members unlinked)

/-- The conditions of accepted tokens whose links are in place continue a run as the tokens do. -/
theorem chain_linkedConditions {tokens : List Token} (accepted : checkAll tokens = .ok ())
    (followed : LinksFollowed tokens) (run : Truth) :
    Truth.chain run (conditionTruths leaves (linkedConditions predicate .and tokens)) =
      continuedTruth run (runTruths (leafTruth predicate leaves) tokens) := by
  cases tokens with
  | nil =>
    simp [linkedConditions, conditionTruths, Truth.chain, runTruths, continuedTruth,
      Truth.conjunction, Truth.disjunction]
  | cons token rest =>
    obtain ⟨first, others⟩ := checkAll_cons_eq_ok_iff.1 accepted
    by_cases isValue : token.isLink = false
    · rw [chain_linkedConditions_value predicate leaves isValue
          (conditionsTruth_isolatedConditions first isValue), Truth.chain,
        chain_linkedConditions others followed.tail, continuedTruth_value _ _ isValue]
    · cases token with
      | leaf value => exact absurd rfl isValue
      | group tokens => exact absurd rfl isValue
      | and => rw [linkedConditions, chain_linkedConditions others followed.tail, runTruths]
      | or =>
        -- the value after the link begins the next run
        obtain ⟨value, more, rfl, nextIsValue⟩ := followed.exists_value rfl
        obtain ⟨next, moreAccepted⟩ := checkAll_cons_eq_ok_iff.1 others
        rw [linkedConditions,
          chain_linkedConditions_value predicate leaves nextIsValue
            (conditionsTruth_isolatedConditions next nextIsValue),
          Truth.chain, chain_linkedConditions moreAccepted followed.tail.tail, continuedTruth_or,
          continuedTruth_value _ _ nextIsValue, Truth.true_and]

end

/-- The conditions of accepted tokens have the truth of the tokens, also when there are none. -/
theorem conditionsTruth_sequenceConditions {tokens : List Token}
    (links : checkLinks tokens = .ok ()) (members : checkAll tokens = .ok ()) :
    conditionsTruth leaves (sequenceConditions predicate tokens) =
      sequenceTruth (leafTruth predicate leaves) tokens := by
  cases tokens with
  | nil => rfl
  | cons first rest =>
    have accepted : check (.group (first :: rest)) = .ok () :=
      check_group_eq_ok_iff.2 ⟨List.cons_ne_nil _ _, links, members⟩
    rw [← truth_group]
    exact conditionsTruth_isolatedConditions predicate leaves accepted rfl

end Compiled

end Token

/-! ## Searches -/

namespace Search

/-- The query of a search that is accepted. -/
def query (registry : CodecRegistry) (definition : ModelDefinition) (table : String)
    (search : Search) : Query where
  table := some table
  conditions := Token.sequenceConditions (Leaf.predicate registry definition) search.tokens
  order := (search.sort.map fun sort => (sort.key, sort.direction)).toList
  limit := positiveCount search.take
  offset := positiveCount search.page

theorem compile_of_check (registry : CodecRegistry) (definition : ModelDefinition)
    (table : String) {search : Search} (accepted : search.check = .ok ()) :
    search.compile registry definition table = .ok (search.query registry definition table) := by
  simp only [compile, validated, accepted]
  rfl

/-- Every accepted search compiles, and its conditions are true, false or unknown as its tokens are,
whatever the truth of its leaves. A search without tokens has no conditions and is true of every row. -/
theorem conditionsTruth_compile (registry : CodecRegistry) (definition : ModelDefinition)
    (table : String) (leaves : LeafTruth) {search : Search} (accepted : search.check = .ok ()) :
    ∃ query, search.compile registry definition table = .ok query ∧
      conditionsTruth leaves query.conditions =
        Token.sequenceTruth (fun leaf => (leaf.predicate registry definition).truth leaves)
          search.tokens ∧
      (search.tokens = [] →
        query.whereFragments = [] ∧ conditionsTruth leaves query.conditions = some true) := by
  obtain ⟨links, members⟩ := of_check accepted
  refine ⟨_, compile_of_check registry definition table accepted, ?_, ?_⟩
  · exact Token.conditionsTruth_sequenceConditions _ leaves links members
  · intro empty
    simp only [query, empty]
    exact ⟨rfl, rfl⟩

/-- A link-free group next to an OR link and a linked group after an AND link: with the second run
unknown and the first false, the search is unknown. -/
theorem conditionsTruth_compile_mixed :
    let leaf (key : String) : Token := .leaf (.property key (.bool true) {})
    let search : Search :=
      { tokens := [leaf "f", .or, .group [leaf "t", leaf "u"], .and, .group [leaf "f", .or, leaf "t"]] }
    let truths (column : String) : Truth :=
      if column = "t" then some true else if column = "f" then some false else none
    let definition : ModelDefinition :=
      ⟨"M", [⟨"t", .boolean, true⟩], ⟨0, by decide⟩, by decide, by decide⟩
    search.check = .ok () ∧
      ∃ query, search.compile .default definition "m" = .ok query ∧
        conditionsTruth ⟨fun column _ _ => truths column, truths⟩ query.conditions = none := by
  intro leaf search truths definition
  have accepted : search.check = .ok () := by rfl
  obtain ⟨query, compiled, truth, -⟩ :=
    conditionsTruth_compile .default definition "m" ⟨fun column _ _ => truths column, truths⟩ accepted
  exact ⟨accepted, query, compiled, truth.trans (by rfl)⟩

end Search

end RecordStore
