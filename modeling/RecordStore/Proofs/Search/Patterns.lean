import RecordStore.Search.Compilation
import RecordStore.Sql.Like

/-!
# Patterns of searches

A search for a beginning, an end or a part writes the text it looks for into a pattern as it is. Where
no character of the text means something in patterns, the pattern matches what was asked for
(`matchesPattern_searchPattern`). Otherwise it does not, for the shortest text that it matches is another
one and no longer (`PatternItem.leastText_ne`). So such a search means what it says exactly for texts
without these characters (`Leaf.pattern_asks_iff`).
-/

namespace RecordStore

/-! ## Matching -/

theorem someEnding_iff {holds : List Char → Bool} {text : List Char} :
    someEnding holds text = true ↔ ∃ ending, ending <:+ text ∧ holds ending = true := by
  induction text with
  | nil => simp [someEnding]
  | cons c rest ih =>
    rw [someEnding, Bool.or_eq_true, ih]
    constructor
    · rintro (here | ⟨ending, suffix, later⟩)
      · exact ⟨_, List.suffix_refl _, here⟩
      · exact ⟨ending, suffix.trans (List.suffix_cons c rest), later⟩
    · rintro ⟨ending, suffix, found⟩
      rcases List.suffix_cons_iff.1 suffix with rfl | within
      · exact .inl found
      · exact .inr ⟨ending, within, found⟩

/-- Literal characters match themselves, and what follows them matches the rest. -/
theorem matchesItems_literal (literal : List Char) (items : List PatternItem) (text : List Char) :
    matchesItems (· == ·) (literal.map .char ++ items) text = true ↔
      ∃ rest, text = literal ++ rest ∧ matchesItems (· == ·) items rest = true := by
  induction literal generalizing text with
  | nil => simp
  | cons c literal ih =>
    cases text with
    | nil => simp [matchesItems]
    | cons d text =>
      simp only [List.map_cons, List.cons_append, matchesItems, Bool.and_eq_true, beq_iff_eq, ih,
        List.cons.injEq]
      constructor
      · rintro ⟨rfl, rest, rfl, found⟩
        exact ⟨rest, ⟨rfl, rfl⟩, found⟩
      · rintro ⟨rest, ⟨rfl, rfl⟩, found⟩
        exact ⟨rfl, rest, rfl, found⟩

theorem matchesItems_nil (text : List Char) : matchesItems (· == ·) [] text = true ↔ text = [] := by
  rw [matchesItems, List.isEmpty_iff]

theorem matchesItems_anyText (text : List Char) : matchesItems (· == ·) [.anyText] text = true :=
  someEnding_iff.2 ⟨[], List.nil_suffix, rfl⟩

/-! ## Literal text -/

/-- Text of which every character stands for itself in a pattern. -/
def IsLiteral (text : List Char) : Prop := ∀ c ∈ text, c ≠ '%' ∧ c ≠ '_' ∧ c ≠ '\\'

-- Instance search could decide this over all characters, not over those of the text.
instance (text : List Char) : Decidable (IsLiteral text) :=
  List.decidableBAll (fun c => c ≠ '%' ∧ c ≠ '_' ∧ c ≠ '\\') text

theorem patternItems_cons {c : Char} (noEscape : c ≠ '\\') (rest : List Char) :
    patternItems (some '\\') (c :: rest) =
      (if c = '%' then .anyText else if c = '_' then .anyChar else .char c) ::
        patternItems (some '\\') rest := by
  cases rest with
  | nil => rfl
  | cons d rest => rw [patternItems, if_neg fun same => noEscape (Option.some.inj same).symm]

theorem patternItems_escape (c : Char) (rest : List Char) :
    patternItems (some '\\') ('\\' :: c :: rest) = .char c :: patternItems (some '\\') rest := by
  rw [patternItems, if_pos rfl]

theorem endsInEscape_cons {c : Char} (noEscape : c ≠ '\\') (rest : List Char) :
    endsInEscape '\\' (c :: rest) = endsInEscape '\\' rest := by
  cases rest with
  | nil => simpa [endsInEscape] using noEscape
  | cons d rest => rw [endsInEscape, if_neg noEscape]

theorem patternItems_literal {literal : List Char} (plain : IsLiteral literal) (rest : List Char) :
    patternItems (some '\\') (literal ++ rest) =
      literal.map .char ++ patternItems (some '\\') rest := by
  induction literal with
  | nil => rfl
  | cons c literal ih =>
    obtain ⟨percent, underscore, noEscape⟩ := plain c List.mem_cons_self
    rw [List.cons_append, patternItems_cons noEscape, if_neg percent, if_neg underscore,
      ih fun d member => plain d (List.mem_cons_of_mem _ member)]
    rfl

theorem endsInEscape_literal {literal : List Char} (plain : IsLiteral literal) (rest : List Char) :
    endsInEscape '\\' (literal ++ rest) = endsInEscape '\\' rest := by
  induction literal with
  | nil => rfl
  | cons c literal ih =>
    rw [List.cons_append, endsInEscape_cons (plain c List.mem_cons_self).2.2,
      ih fun d member => plain d (List.mem_cons_of_mem _ member)]

/-! ## The shortest text -/

/-- What opens a side of a pattern. -/
def opening (isOpen : Bool) : List Char := if isOpen then ['%'] else []

namespace PatternItem

/-- The shortest text that matches, with the letter x where any character does. -/
def leastText : List PatternItem → List Char
  | [] => []
  | .anyText :: items => leastText items
  | .anyChar :: items => 'x' :: leastText items
  | .char c :: items => c :: leastText items

theorem matchesItems_leastText (items : List PatternItem) :
    matchesItems (· == ·) items (leastText items) = true := by
  induction items with
  | nil => rfl
  | cons item items ih =>
    cases item with
    | anyText => exact someEnding_iff.2 ⟨_, List.suffix_refl _, ih⟩
    | anyChar => exact ih
    | char c => rw [leastText, matchesItems, beq_self_eq_true, ih, Bool.and_self]

/-- An item writes at most one character. -/
theorem length_leastText_item_le (c : Char) (items : List PatternItem) :
    (leastText ((if c = '%' then .anyText else if c = '_' then .anyChar else .char c) :: items)).length
      ≤ (leastText items).length + 1 := by
  split
  · exact Nat.le_succ _
  · split <;> exact Nat.le_refl _

/-- The shortest text of a pattern is no longer than the text that the pattern was made of, also where
the sign that opens its end is escaped. -/
theorem length_leastText_le (openEnd : Bool) : ∀ text : List Char,
    (leastText (patternItems (some '\\') (text ++ opening openEnd))).length ≤ text.length
  | [] => by cases openEnd <;> exact Nat.le_refl _
  | c :: rest => by
    by_cases escape : c = '\\'
    · subst escape
      cases rest with
      | nil => cases openEnd <;> decide
      | cons d rest =>
        have inner := length_leastText_le openEnd rest
        rw [List.cons_append, List.cons_append, patternItems_escape, leastText, List.length_cons,
          List.length_cons, List.length_cons]
        omega
    · rw [List.cons_append, patternItems_cons escape]
      exact Nat.le_trans (length_leastText_item_le c _)
        (Nat.succ_le_succ (length_leastText_le openEnd rest))

/-- Where a text has a character that means something in patterns, the shortest text of the pattern that
is made of it is another one. -/
theorem leastText_ne (openEnd : Bool) : ∀ {text : List Char}, ¬ IsLiteral text →
    endsInEscape '\\' (text ++ opening openEnd) = false →
    leastText (patternItems (some '\\') (text ++ opening openEnd)) ≠ text
  | [], special, _ => absurd nofun special
  | c :: rest, special, valid => by
    by_cases escape : c = '\\'
    · subst escape
      cases rest with
      | nil =>
        cases openEnd with
        | true => decide
        | false => cases valid
      | cons d rest =>
        -- the escaped character is written without the backslash, which leaves too few characters
        have inner := length_leastText_le openEnd rest
        rw [List.cons_append, List.cons_append, patternItems_escape, leastText]
        intro same
        have length := congrArg List.length same
        simp only [List.length_cons] at length
        omega
    · rw [List.cons_append, endsInEscape_cons escape] at valid
      rw [List.cons_append, patternItems_cons escape]
      by_cases percent : c = '%'
      · rw [if_pos percent, leastText]
        intro same
        have inner := length_leastText_le openEnd rest
        have length := congrArg List.length same
        rw [List.length_cons] at length
        omega
      · by_cases underscore : c = '_'
        · rw [if_neg percent, if_pos underscore, leastText, underscore]
          exact fun same => absurd (List.cons.inj same).1 (by decide)
        · have later : ¬ IsLiteral rest := fun plain => special fun d member => by
            rcases List.mem_cons.1 member with rfl | within
            · exact ⟨percent, underscore, escape⟩
            · exact plain d within
          rw [if_neg percent, if_neg underscore, leastText]
          exact fun same => leastText_ne openEnd later valid (List.cons.inj same).2

end PatternItem

/-! ## What a pattern asks for -/

/-- What a leaf with a pattern asks of a text: to begin with its value, to end with it, or to contain
it. -/
def PropertyOptions.Asks (options : PropertyOptions) (value text : List Char) : Prop :=
  match options.startsWith, options.endsWith with
  | true, false => value <+: text
  | false, true => value <:+ text
  | true, true => value <:+: text
  | false, false => text = value

namespace PropertyOptions

variable {options : PropertyOptions} {value text : List Char}

theorem asks_self (options : PropertyOptions) (value : List Char) : options.Asks value value := by
  rw [Asks]
  split
  · exact List.prefix_refl _
  · exact List.suffix_refl _
  · exact List.infix_refl _
  · rfl

theorem Asks.isInfix (asks : options.Asks value text) : value <:+: text := by
  rw [Asks] at asks
  split at asks
  · exact asks.isInfix
  · exact asks.isInfix
  · exact asks
  · exact asks ▸ List.infix_refl _

end PropertyOptions

theorem toList_searchPattern (value : String) (options : PropertyOptions) :
    (searchPattern (.string value) options).toList =
      opening options.endsWith ++ value.toList ++ opening options.startsWith := by
  rw [searchPattern, String.toList_append, String.toList_append, opening, opening]
  cases options.endsWith <;> cases options.startsWith <;> rfl

/-! ### Patterns of literal text -/

section Literal

variable {literal : List Char} (plain : IsLiteral literal)

include plain

theorem matchesItems_closed (text : List Char) :
    matchesItems (· == ·) (patternItems (some '\\') (literal ++ opening false)) text = true ↔
      text = literal := by
  rw [patternItems_literal plain, matchesItems_literal]
  simp [opening, patternItems, matchesItems_nil]

theorem matchesItems_openEnd (text : List Char) :
    matchesItems (· == ·) (patternItems (some '\\') (literal ++ opening true)) text = true ↔
      literal <+: text := by
  have items : patternItems (some '\\') (opening true) = [.anyText] := rfl
  rw [patternItems_literal plain, matchesItems_literal, items]
  exact ⟨fun ⟨rest, same, _⟩ => ⟨rest, same.symm⟩,
    fun ⟨rest, same⟩ => ⟨rest, same.symm, matchesItems_anyText rest⟩⟩

end Literal

theorem patternItems_openStart (rest : List Char) :
    patternItems (some '\\') (opening true ++ rest) = .anyText :: patternItems (some '\\') rest :=
  patternItems_cons (by decide) rest

theorem matchesItems_openStart (rest text : List Char) :
    matchesItems (· == ·) (patternItems (some '\\') (opening true ++ rest)) text = true ↔
      ∃ ending, ending <:+ text ∧
        matchesItems (· == ·) (patternItems (some '\\') rest) ending = true := by
  rw [patternItems_openStart, matchesItems, someEnding_iff]

/-- What opens the start of a pattern escapes nothing. -/
theorem endsInEscape_openStart (isOpen : Bool) (rest : List Char) :
    endsInEscape '\\' (opening isOpen ++ rest) = endsInEscape '\\' rest := by
  cases isOpen with
  | true => exact endsInEscape_cons (by decide) rest
  | false => rfl

/-- What opens the start of a pattern adds nothing to its shortest text. -/
theorem leastText_openStart (isOpen : Bool) (rest : List Char) :
    PatternItem.leastText (patternItems (some '\\') (opening isOpen ++ rest)) =
      PatternItem.leastText (patternItems (some '\\') rest) := by
  cases isOpen with
  | true => rw [patternItems_openStart, PatternItem.leastText]
  | false => rfl

theorem matchesPattern_searchPattern_iff (value : String) (options : PropertyOptions) (text : String) :
    matchesPattern (searchPattern (.string value) options) text = true ↔
      endsInEscape '\\' (value.toList ++ opening options.startsWith) = false ∧
        matchesItems (· == ·) (patternItems (some '\\') (opening options.endsWith ++
          (value.toList ++ opening options.startsWith))) text.toList = true := by
  rw [matchesPattern, toList_searchPattern, List.append_assoc, endsInEscape_openStart,
    Bool.and_eq_true, Bool.not_eq_true']

/-- The pattern of a literal value matches what was asked for. -/
theorem matchesPattern_searchPattern {value : String} (plain : IsLiteral value.toList)
    (options : PropertyOptions) (text : String) :
    matchesPattern (searchPattern (.string value) options) text = true ↔
      options.Asks value.toList text.toList := by
  have valid : endsInEscape '\\' (value.toList ++ opening options.startsWith) = false := by
    rw [endsInEscape_literal plain]
    cases options.startsWith <;> rfl
  rw [matchesPattern_searchPattern_iff, valid, and_iff_right rfl, PropertyOptions.Asks]
  cases options.endsWith with
  | false =>
    cases options.startsWith with
    | false => exact matchesItems_closed plain _
    | true => exact matchesItems_openEnd plain _
  | true =>
    rw [matchesItems_openStart]
    cases options.startsWith with
    | false => simp only [matchesItems_closed plain, exists_eq_right]
    | true =>
      simp only [matchesItems_openEnd plain]
      rw [List.infix_iff_prefix_suffix]
      exact exists_congr fun ending => and_comm

/-- A value with a character that means something in patterns is not matched as it was asked for. -/
theorem exists_matchesPattern_ne {value : String} (special : ¬ IsLiteral value.toList)
    (options : PropertyOptions) :
    ∃ text, ¬ (matchesPattern (searchPattern (.string value) options) text = true ↔
      options.Asks value.toList text.toList) := by
  cases refused : endsInEscape '\\' (value.toList ++ opening options.startsWith) with
  | true =>
    refine ⟨value, fun same => ?_⟩
    have found := (matchesPattern_searchPattern_iff value options value).1
      (same.2 (options.asks_self value.toList))
    exact absurd (refused.symm.trans found.1) (by decide)
  | false =>
    refine ⟨String.ofList (PatternItem.leastText (patternItems (some '\\')
      (value.toList ++ opening options.startsWith))), fun same => ?_⟩
    rw [matchesPattern_searchPattern_iff, String.toList_ofList] at same
    have found := PatternItem.matchesItems_leastText (patternItems (some '\\')
      (opening options.endsWith ++ (value.toList ++ opening options.startsWith)))
    rw [leastText_openStart] at found
    have asked := same.1 ⟨refused, found⟩
    exact PatternItem.leastText_ne options.startsWith special refused
      (asked.isInfix.eq_of_length_le (PatternItem.length_leastText_le _ _)).symm

/-! ## Leaves -/

/-- A leaf that looks for a beginning, an end or a part is compiled to a match, and the pattern matches
what the leaf asks for exactly if its value has none of the characters that mean something in patterns. -/
theorem Leaf.pattern_asks_iff (registry : CodecRegistry) (definition : ModelDefinition)
    (key value : String) {options : PropertyOptions} (matching : options.isPattern = true) :
    ∃ pattern, (Leaf.property key (.string value) options).predicate registry definition =
        .compare key (if options.caseSensitive then .likeAnyCase else .like) (.string pattern) ∧
      ((∀ text, matchesPattern pattern text = true ↔ options.Asks value.toList text.toList) ↔
        IsLiteral value.toList) := by
  refine ⟨searchPattern (.string value) options, ?_, ?_, fun plain => ?_⟩
  · rw [Leaf.predicate, Leaf.propertyPredicate, if_pos (by rw [matching, Bool.or_true])]
  · intro means
    refine Decidable.byContradiction fun special => ?_
    obtain ⟨text, differs⟩ := exists_matchesPattern_ne special options
    exact differs (means text)
  · exact matchesPattern_searchPattern plain options

/-- A value with characters that mean something in other kinds of patterns is found wherever it stands. -/
theorem Leaf.pattern_asks_iff_part :
    let options : PropertyOptions := { startsWith := true, endsWith := true, caseSensitive := true }
    let definition : ModelDefinition :=
      ⟨"M", [⟨"name", .text, true⟩], ⟨0, by decide⟩, by decide, by decide⟩
    options.isPattern = true ∧
      ∃ pattern, (Leaf.property "name" (.string "a.*[b") options).predicate .default definition =
          .compare "name" .likeAnyCase (.string pattern) ∧
        ∀ text, matchesPattern pattern text = true ↔ "a.*[b".toList <:+: text.toList := by
  intro options definition
  have matching : options.isPattern = true := rfl
  obtain ⟨pattern, compiled, means⟩ :=
    Leaf.pattern_asks_iff .default definition "name" "a.*[b" matching
  exact ⟨matching, pattern, compiled, means.2 (by decide)⟩

/-- A search for what begins with `50%` also finds `500`, for the percent sign of the value is read as
any text. -/
theorem Leaf.pattern_matches_unasked :
    let options : PropertyOptions := { startsWith := true }
    let definition : ModelDefinition :=
      ⟨"M", [⟨"name", .text, true⟩], ⟨0, by decide⟩, by decide, by decide⟩
    (Leaf.property "name" (.string "50%") options).predicate .default definition =
        .compare "name" .like (.string "50%%") ∧
      matchesPattern "50%%" "500" = true ∧ ¬ "50%".toList <+: "500".toList := by
  exact ⟨rfl, by decide, by decide⟩

end RecordStore
