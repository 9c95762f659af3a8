import RecordStore.Proofs.Search.Validity
import RecordStore.Search.Compilation

/-!
# The grammar of queries

A query is a value and then any number of values, each with a link before it or without one; a value is
a leaf that names a property or a group around such a sequence. The check of a search looks at the ends
and at every pair of neighbours of each level instead. Both come to the same
(`Search.accepted_iff_derivable`): what follows the first value can be derived exactly if a value follows
each of its links (`Token.IsContinuation.linksFollowed`, `Token.isContinuation_of_checkAll`).
-/

namespace RecordStore

namespace Token

/-! ## Derivations -/

mutual

/-- `value ::= leaf with a key | "(" sequence ")"` -/
inductive IsValue : Token → Prop where
  | leaf {leaf : Leaf} (named : leaf.key ≠ "") : IsValue (.leaf leaf)
  | group {tokens : List Token} (inner : IsSequence tokens) : IsValue (.group tokens)

/-- `sequence ::= value continuation` -/
inductive IsSequence : List Token → Prop where
  | mk {first : Token} {rest : List Token} (value : IsValue first) (more : IsContinuation rest) :
    IsSequence (first :: rest)

/-- `continuation ::= ((AND | OR)? value)*` -/
inductive IsContinuation : List Token → Prop where
  | done : IsContinuation []
  | plain {next : Token} {rest : List Token} (value : IsValue next) (more : IsContinuation rest) :
    IsContinuation (next :: rest)
  | and {next : Token} {rest : List Token} (value : IsValue next) (more : IsContinuation rest) :
    IsContinuation (.and :: next :: rest)
  | or {next : Token} {rest : List Token} (value : IsValue next) (more : IsContinuation rest) :
    IsContinuation (.or :: next :: rest)

end

theorem IsValue.isLink_eq_false {token : Token} (value : IsValue token) : token.isLink = false := by
  cases value <;> rfl

/-! ## Links of derived sequences -/

theorem IsContinuation.linksFollowed {tokens : List Token} :
    IsContinuation tokens → LinksFollowed tokens
  | .done => linksFollowed_nil
  | .plain value more => more.linksFollowed.cons_value value.isLink_eq_false
  | .and value more =>
    (more.linksFollowed.cons_value value.isLink_eq_false).cons_link value.isLink_eq_false
  | .or value more =>
    (more.linksFollowed.cons_value value.isLink_eq_false).cons_link value.isLink_eq_false

/-! ## Checked tokens -/

mutual

/-- An accepted token that is no link is a value. -/
theorem isValue_of_check {token : Token} (accepted : token.check = .ok ())
    (noLink : token.isLink = false) : IsValue token := by
  cases token with
  | and => cases noLink
  | or => cases noLink
  | leaf leaf =>
    refine .leaf fun unnamed => ?_
    rw [check, if_pos unnamed] at accepted
    cases accepted
  | group tokens =>
    obtain ⟨nonempty, links, members⟩ := check_group_eq_ok_iff.1 accepted
    obtain ⟨followed, head⟩ := checkLinks_eq_ok_iff.1 links
    cases tokens with
    | nil => exact absurd rfl nonempty
    | cons first rest =>
      obtain ⟨firstAccepted, restAccepted⟩ := checkAll_cons_eq_ok_iff.1 members
      exact .group (.mk (isValue_of_check firstAccepted head)
        (isContinuation_of_checkAll restAccepted followed.tail))

/-- Accepted tokens in which a value follows every link continue a sequence. -/
theorem isContinuation_of_checkAll {tokens : List Token} (accepted : checkAll tokens = .ok ())
    (followed : LinksFollowed tokens) : IsContinuation tokens := by
  cases tokens with
  | nil => exact .done
  | cons token rest =>
    obtain ⟨first, others⟩ := checkAll_cons_eq_ok_iff.1 accepted
    cases link : token.isLink with
    | false =>
      exact .plain (isValue_of_check first link) (isContinuation_of_checkAll others followed.tail)
    | true =>
      -- a link goes with the value after it, so two tokens are taken at once
      obtain ⟨value, more, rfl, isValue⟩ := followed.exists_value link
      obtain ⟨next, moreAccepted⟩ := checkAll_cons_eq_ok_iff.1 others
      have derived := isValue_of_check next isValue
      have continued := isContinuation_of_checkAll moreAccepted followed.tail.tail
      cases token with
      | leaf => cases link
      | group => cases link
      | and => exact .and derived continued
      | or => exact .or derived continued

end

mutual

theorem IsValue.check_eq_ok {token : Token} : IsValue token → token.check = .ok ()
  | .leaf named => by rw [check, if_neg named]
  | .group (.mk value more) =>
    check_group_eq_ok_iff.2 ⟨List.cons_ne_nil _ _,
      checkLinks_eq_ok_iff.2 ⟨more.linksFollowed.cons_value value.isLink_eq_false,
        value.isLink_eq_false⟩,
      checkAll_cons_eq_ok_iff.2 ⟨value.check_eq_ok, more.checkAll_eq_ok⟩⟩

theorem IsContinuation.checkAll_eq_ok {tokens : List Token} :
    IsContinuation tokens → checkAll tokens = .ok ()
  | .done => rfl
  | .plain value more => checkAll_cons_eq_ok_iff.2 ⟨value.check_eq_ok, more.checkAll_eq_ok⟩
  | .and value more =>
    checkAll_cons_eq_ok_iff.2 ⟨rfl, checkAll_cons_eq_ok_iff.2 ⟨value.check_eq_ok, more.checkAll_eq_ok⟩⟩
  | .or value more =>
    checkAll_cons_eq_ok_iff.2 ⟨rfl, checkAll_cons_eq_ok_iff.2 ⟨value.check_eq_ok, more.checkAll_eq_ok⟩⟩

end

/-- Tokens without a group around them are accepted when they can be derived or there are none. -/
theorem isSequence_iff {tokens : List Token} :
    (tokens = [] ∨ IsSequence tokens) ↔ checkLinks tokens = .ok () ∧ checkAll tokens = .ok () := by
  cases tokens with
  | nil => exact iff_of_true (.inl rfl) ⟨rfl, rfl⟩
  | cons first rest =>
    have group : IsValue (.group (first :: rest)) ↔ IsSequence (first :: rest) :=
      ⟨fun | .group inner => inner, .group⟩
    rw [or_iff_right (List.cons_ne_nil _ _), ← group]
    exact ⟨fun value => (check_group_eq_ok_iff.1 value.check_eq_ok).2,
      fun accepted => isValue_of_check (check_group_eq_ok_iff.2 ⟨List.cons_ne_nil _ _, accepted⟩) rfl⟩

end Token

/-! ## Searches -/

namespace Search

/-- A search whose order names a property and whose tokens can be derived, if there are any. -/
structure IsDerivable (search : Search) : Prop where
  sort : ∀ sort ∈ search.sort, sort.key ≠ ""
  tokens : search.tokens = [] ∨ Token.IsSequence search.tokens

theorem isDerivable_iff (search : Search) : search.IsDerivable ↔ search.check = .ok () := by
  rw [check_eq_ok_iff, ← Token.isSequence_iff]
  exact ⟨fun ⟨sorted, tokens⟩ => ⟨tokens, sorted⟩, fun ⟨tokens, sorted⟩ => ⟨sorted, tokens⟩⟩

/-- A search that is refused is refused as malformed, with the first fault of its tokens or its order. -/
theorem validated_cases (search : Search) :
    (search.validated = .ok search ∧ search.check = .ok ()) ∨
      ∃ fault, search.validated = .error (.malformedQuery (.sequence fault)) ∧
        search.check = .error fault := by
  cases checked : search.check with
  | ok _ => exact .inl ⟨by rw [validated, checked]; rfl, rfl⟩
  | error fault => exact .inr ⟨fault, by rw [validated, checked]; rfl, rfl⟩

/-- A search is accepted exactly if it can be derived, and otherwise it is malformed. The compiler
accepts the same searches as the check. -/
theorem accepted_iff_derivable (search : Search) :
    (search.validated = .ok search ↔ search.IsDerivable) ∧
    ((∃ fault, search.validated = .error (.malformedQuery (.sequence fault))) ↔
      ¬ search.IsDerivable) ∧
    ∀ registry definition table,
      ((∃ query, search.compile registry definition table = .ok query) ↔ search.IsDerivable) ∧
      ((∃ fault, search.compile registry definition table =
        .error (.malformedQuery (.sequence fault))) ↔ ¬ search.IsDerivable) := by
  rw [isDerivable_iff]
  rcases search.validated_cases with ⟨valid, accepted⟩ | ⟨fault, refused, failed⟩
  · simp [compile, valid, accepted, bind, Except.bind, pure, Except.pure]
  · simp [compile, refused, failed, bind, Except.bind]

end Search

end RecordStore
