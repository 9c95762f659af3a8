import RecordStore.Proofs.Except
import RecordStore.Search.Validity

/-!
# Accepted searches

What the check of a search asks for, part by part: that a value follows every link
(`Token.checkLinks_eq_ok_iff`), that groups are not empty and their members are accepted
(`Token.check_group_eq_ok_iff`), and that the order names a property (`Search.check_eq_ok_iff`).
-/

namespace RecordStore

namespace Token

/-! ## Links -/

/-- A sequence in which a value follows every link. -/
structure LinksFollowed (tokens : List Token) : Prop where
  last : tokens.getLast?.any isLink = false
  adjacent : hasAdjacentLinks tokens = false

theorem linksFollowed_nil : LinksFollowed [] := ⟨rfl, rfl⟩

/-- Before tokens in which a value follows every link there may stand a value. -/
theorem LinksFollowed.cons_value {value : Token} {rest : List Token} (followed : LinksFollowed rest)
    (isValue : value.isLink = false) : LinksFollowed (value :: rest) := by
  cases rest with
  | nil => exact ⟨by simp [isValue], rfl⟩
  | cons next others =>
    refine ⟨by simpa using followed.last, ?_⟩
    rw [hasAdjacentLinks, isValue, Bool.false_and, Bool.false_or]
    exact followed.adjacent

/-- Before a value there may stand a link. -/
theorem LinksFollowed.cons_link {link value : Token} {rest : List Token}
    (followed : LinksFollowed (value :: rest)) (isValue : value.isLink = false) :
    LinksFollowed (link :: value :: rest) := by
  refine ⟨by simpa using followed.last, ?_⟩
  rw [hasAdjacentLinks, isValue, Bool.and_false, Bool.false_or]
  exact followed.adjacent

theorem LinksFollowed.tail {token : Token} {rest : List Token}
    (followed : LinksFollowed (token :: rest)) : LinksFollowed rest := by
  obtain ⟨last, adjacent⟩ := followed
  cases rest with
  | nil => exact ⟨rfl, rfl⟩
  | cons second rest =>
    simp only [hasAdjacentLinks, Bool.or_eq_false_iff] at adjacent
    exact ⟨by simpa using last, adjacent.2⟩

/-- What follows a link is a value. -/
theorem LinksFollowed.exists_value {link : Token} {rest : List Token}
    (followed : LinksFollowed (link :: rest)) (isLink : link.isLink = true) :
    ∃ value others, rest = value :: others ∧ value.isLink = false := by
  obtain ⟨last, adjacent⟩ := followed
  cases rest with
  | nil => simp [isLink] at last
  | cons value others =>
    simp only [hasAdjacentLinks, isLink, Bool.true_and, Bool.or_eq_false_iff] at adjacent
    exact ⟨value, others, rfl, adjacent.1⟩

/-! ## Checked tokens -/

/-- The links of a sequence are in place when it begins with a value and a value follows every link. -/
theorem checkLinks_eq_ok_iff {tokens : List Token} :
    checkLinks tokens = .ok () ↔ LinksFollowed tokens ∧ tokens.head?.any isLink = false := by
  constructor
  · intro accepted
    unfold checkLinks at accepted
    split at accepted
    · cases accepted
    next head =>
      split at accepted
      · cases accepted
      next last =>
        split at accepted
        · cases accepted
        next adjacent =>
          exact ⟨⟨by simpa using last, by simpa using adjacent⟩, by simpa using head⟩
  · rintro ⟨followed, head⟩
    simp only [checkLinks, head, followed.last, followed.adjacent, Bool.false_eq_true, if_false]

theorem checkAll_cons_eq_ok_iff {token : Token} {rest : List Token} :
    checkAll (token :: rest) = .ok () ↔ token.check = .ok () ∧ checkAll rest = .ok () := by
  rw [checkAll, bind_eq_ok_iff]
  exact ⟨fun ⟨(), first, others⟩ => ⟨first, others⟩, fun ⟨first, others⟩ => ⟨(), first, others⟩⟩

/-- A group is accepted when it is not empty, its links are in place and its members are accepted. -/
theorem check_group_eq_ok_iff {tokens : List Token} :
    check (.group tokens) = .ok () ↔
      tokens ≠ [] ∧ checkLinks tokens = .ok () ∧ checkAll tokens = .ok () := by
  cases tokens with
  | nil => exact iff_of_false nofun fun accepted => accepted.1 rfl
  | cons first rest =>
    have same : check (.group (first :: rest)) =
        checkLinks (first :: rest) >>= fun _ => checkAll (first :: rest) := by
      rw [check, checkAll]
    rw [same, bind_eq_ok_iff]
    exact ⟨fun ⟨(), links, members⟩ => ⟨List.cons_ne_nil _ _, links, members⟩,
      fun ⟨_, links, members⟩ => ⟨(), links, members⟩⟩

end Token

/-! ## Searches -/

namespace Search

/-- A search is accepted when its links are in place, its tokens are accepted and its order names a
property. -/
theorem check_eq_ok_iff {search : Search} :
    search.check = .ok () ↔
      (checkLinks search.tokens = .ok () ∧ Token.checkAll search.tokens = .ok ()) ∧
        ∀ sort ∈ search.sort, sort.key ≠ "" := by
  rw [check, bind_eq_ok_iff]
  constructor
  · rintro ⟨⟨⟩, links, rest⟩
    obtain ⟨⟨⟩, members, sorted⟩ := bind_eq_ok_iff.1 rest
    refine ⟨⟨links, members⟩, fun sort ordered unnamed => ?_⟩
    rw [Option.mem_def.1 ordered] at sorted
    simp [unnamed, throw, throwThe, MonadExceptOf.throw] at sorted
  · rintro ⟨⟨links, members⟩, named⟩
    refine ⟨(), links, bind_eq_ok_iff.2 ⟨(), members, ?_⟩⟩
    cases order : search.sort with
    | none => rfl
    | some sort =>
      simp only [named sort order, if_false]
      rfl

/-- What the tokens of an accepted search fulfill. -/
theorem of_check {search : Search} (accepted : search.check = .ok ()) :
    checkLinks search.tokens = .ok () ∧ Token.checkAll search.tokens = .ok () :=
  (check_eq_ok_iff.1 accepted).1

end Search

end RecordStore
