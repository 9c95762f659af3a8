import RecordStore.Proofs.Sql.Scan

/-!
# Cutting a statement into tokens

The text of fragments between which there are breaks is cut into the tokens of each fragment
(`Fragment.scan_render`), and its placeholders get back the values that the fragments bind
(`Fragment.resolve_scanned`). So what a statement says is `Fragment.tokens` of its fragments, whatever
the dialect (`Fragment.resolve_scan_render`).
-/

namespace RecordStore

open SqlToken (scan next isBreak Separated breakTokens)

/-- The token of a placeholder. -/
def Dialect.placeholderToken : Dialect → Nat → SqlToken
  | postgres, index => .param (index + 1)
  | sqlite, _ => .nextParam

namespace Fragment

/-- Whether a token stands for itself and not for a parameter. -/
def isPlain : SqlToken → Bool
  | .nextParam => false
  | .param _ => false
  | _ => true

/-- Whether the last character of a fragment breaks off the token before it. -/
def opens : Fragment → Bool
  | .words text => text.toList.getLast?.any isBreak
  | _ => false

/-- Whether the words of a fragment are whole tokens without placeholders, also without the break that
they may end in. -/
def isCut : Fragment → Bool
  | .words text =>
    (scan text.toList).any (·.all isPlain)
      && (!(Fragment.words text).opens || (scan text.toList.dropLast).isSome)
  | _ => true

/-- The tokens of a fragment, a parameter being written as told. -/
def tokens (dialect : Dialect) (written : StoredValue → SqlToken) : Fragment → List SqlToken
  | .words text => (scan text.toList).getD []
  | .name identifier => [.name identifier]
  | .comparison kind => (scan (dialect.comparisonText kind).toList).getD []
  | .value bound => if bound.isNull then [.word "NULL"] else [written bound]
  | .noLimit => (scan dialect.noLimitText.toList).getD []

/-- No text of the fragments goes on with a token before them. -/
def Separates (fragments : List Fragment) : Prop :=
  ∀ dialect index, Separated (render dialect index fragments)

/-- Between any two fragments there is a break. -/
def Spaced : List Fragment → Prop
  | [] => True
  | fragment :: rest =>
    fragment.isCut = true ∧ (fragment.opens = true ∨ Separates rest) ∧ Spaced rest

theorem scan_words {text : String} (cut : (Fragment.words text).isCut = true) :
    ∃ tokens, scan text.toList = some tokens ∧ tokens.all isPlain = true := by
  simp only [isCut, Bool.and_eq_true, Option.any_eq_true] at cut
  obtain ⟨⟨tokens, scanned, plain⟩, -⟩ := cut
  exact ⟨tokens, scanned, plain⟩

/-- Words that end in a break are cut apart from whatever follows. -/
theorem scan_words_of_opens {text : String} (cut : (Fragment.words text).isCut = true)
    (opens : (Fragment.words text).opens = true) (more : List Char) :
    scan (text.toList ++ more) = (scan more).map ((scan text.toList).getD [] ++ ·) := by
  simp only [isCut, opens, Bool.and_eq_true, Bool.not_true, Bool.false_or] at cut
  obtain ⟨start, begins⟩ := Option.isSome_iff_exists.1 cut.2
  simp only [Fragment.opens, Option.any_eq_true] at opens
  obtain ⟨c, last, break_⟩ := opens
  obtain ⟨front, parts⟩ := List.getLast?_eq_some_iff.1 last
  rw [parts, List.dropLast_concat] at begins
  rw [parts, List.append_assoc, List.singleton_append,
    SqlToken.scan_append_of_break break_ begins more, SqlToken.scan_append_of_break break_ begins []]
  simp [SqlToken.scan_nil]

theorem scan_name (identifier : String) {more : List Char} (separated : Separated more) :
    scan (quoteIdentifier identifier.toList ++ more) =
      (scan more).map (.name identifier :: ·) := by
  have scanned : next '"' (doubleQuotes identifier.toList ++ '"' :: more) =
      some (.name identifier, more) := by
    simp [next, SqlToken.scanIdentifier_doubleQuotes _ separated]
  have same : quoteIdentifier identifier.toList ++ more =
      '"' :: (doubleQuotes identifier.toList ++ '"' :: more) := by
    simp [quoteIdentifier]
  rw [same, SqlToken.scan_cons (by decide) scanned]

theorem scan_placeholder (dialect : Dialect) (index : Nat) {more : List Char}
    (separated : Separated more) :
    scan (dialect.placeholder index ++ more) =
      (scan more).map (dialect.placeholderToken index :: ·) := by
  cases dialect with
  | sqlite => exact SqlToken.scan_cons (by decide) rfl
  | postgres =>
    have ends : Text.NoDigitNext more := fun c head =>
      (SqlToken.facts_of_isBreak c (separated c head)).1
    have scanned : next '$' (Text.digits (index + 1) ++ more) = some (.param (index + 1), more) := by
      simp [next, Text.leadingDigits_digits _ ends, Text.afterDigits_digits _ ends,
        Text.natural?_digits]
    exact SqlToken.scan_cons (by decide) scanned

/-- The parameter after a fragment. -/
def nextIndex (index : Nat) (fragment : Fragment) : Nat :=
  if fragment.param?.isSome then index + 1 else index

/-- A fragment is cut from what follows it where there is a break between them. -/
theorem scan_text (dialect : Dialect) (index : Nat) {fragment : Fragment} {more : List Char}
    (cut : fragment.isCut = true) (apart : fragment.opens = true ∨ Separated more) :
    scan (fragment.text dialect index ++ more) =
      (scan more).map
        (fragment.tokens dialect (fun _ => dialect.placeholderToken index) ++ ·) := by
  by_cases opens : fragment.opens = true
  · cases fragment with
    | words text => exact scan_words_of_opens cut opens more
    | name => cases opens
    | comparison => cases opens
    | value => cases opens
    | noLimit => cases opens
  · have separated := apart.resolve_left opens
    cases fragment with
    | words text =>
      obtain ⟨found, scanned, -⟩ := scan_words cut
      simp only [Fragment.text, tokens, scanned, Option.getD_some]
      exact SqlToken.scan_append separated scanned
    | name identifier => exact scan_name identifier separated
    | comparison kind =>
      cases dialect <;> cases kind <;> exact SqlToken.scan_append separated rfl
    | value bound =>
      simp only [Fragment.text, tokens]
      split
      · exact SqlToken.scan_append separated rfl
      · exact scan_placeholder dialect index separated
    | noLimit => cases dialect <;> exact SqlToken.scan_append separated rfl

/-- The tokens of fragments with their placeholders, the next parameter having the given index. -/
def scanned (dialect : Dialect) : Nat → List Fragment → List SqlToken
  | _, [] => []
  | index, fragment :: rest =>
    fragment.tokens dialect (fun _ => dialect.placeholderToken index)
      ++ scanned dialect (nextIndex index fragment) rest

/-- The text of spaced fragments is cut into the tokens of the fragments. -/
theorem scan_render (dialect : Dialect) {fragments : List Fragment} (spaced : Spaced fragments)
    (index : Nat) : scan (render dialect index fragments) = some (scanned dialect index fragments) := by
  induction fragments generalizing index with
  | nil => rfl
  | cons fragment rest ih =>
    obtain ⟨cut, apart, spaced⟩ := spaced
    have apart := apart.imp_right fun separates => separates dialect (nextIndex index fragment)
    rw [render, ← nextIndex, scan_text dialect index cut apart, ih spaced]
    rfl

/-! ## Parameters -/

theorem resolve_append_of_plain (params : List StoredValue) (position : Nat)
    {tokens : List SqlToken} (plain : tokens.all isPlain = true) (rest : List SqlToken) :
    SqlToken.resolve params position (tokens ++ rest) =
      (SqlToken.resolve params position rest).map (tokens ++ ·) := by
  induction tokens with
  | nil => simp
  | cons token tokens ih =>
    simp only [List.all_cons, Bool.and_eq_true] at plain
    have step : SqlToken.resolve params position (token :: (tokens ++ rest)) =
        (SqlToken.resolve params position (tokens ++ rest)).map (token :: ·) := by
      cases token with
      | nextParam => cases plain.1
      | param => cases plain.1
      | _ =>
        simp only [SqlToken.resolve]
        cases SqlToken.resolve params position (tokens ++ rest) <;> rfl
    rw [List.cons_append, step, ih plain.2, Option.map_map]
    rfl

/-- Where the next placeholder is to be found that does not tell the number of its parameter. -/
def position : Dialect → Nat → Nat
  | .postgres, _ => 0
  | .sqlite, index => index

theorem resolve_placeholder {params : List StoredValue} (dialect : Dialect) {index : Nat}
    {value : StoredValue} (found : params[index]? = some value) (rest : List SqlToken) :
    SqlToken.resolve params (position dialect index) (dialect.placeholderToken index :: rest) =
      (SqlToken.resolve params (position dialect (index + 1)) rest).map (.value value :: ·) := by
  cases dialect with
  | postgres =>
    simp only [Dialect.placeholderToken, SqlToken.resolve, position, Nat.add_one_ne_zero, if_false,
      Nat.add_sub_cancel, found]
    cases SqlToken.resolve params 0 rest <;> rfl
  | sqlite =>
    simp only [Dialect.placeholderToken, SqlToken.resolve, position, found]
    cases SqlToken.resolve params (index + 1) rest <;> rfl

theorem plain_tokens (dialect : Dialect) (written : StoredValue → SqlToken) {fragment : Fragment}
    (cut : fragment.isCut = true) (unbound : fragment.param?.isNone = true) :
    (fragment.tokens dialect written).all isPlain = true := by
  cases fragment with
  | words text =>
    obtain ⟨found, scanned, plain⟩ := scan_words cut
    simpa only [tokens, scanned, Option.getD_some] using plain
  | name => rfl
  | comparison kind => cases dialect <;> cases kind <;> rfl
  | value bound =>
    by_cases null : bound.isNull = true
    · simp [tokens, null, isPlain]
    · simp [param?, null] at unbound
  | noLimit => cases dialect <;> rfl

theorem tokens_of_unbound (dialect : Dialect) (written : StoredValue → SqlToken)
    {fragment : Fragment} (unbound : fragment.param?.isNone = true) :
    fragment.tokens dialect written = fragment.tokens dialect .value := by
  cases fragment with
  | value bound =>
    by_cases null : bound.isNull = true
    · simp [tokens, null]
    · simp [param?, null] at unbound
  | _ => rfl

/-- The placeholders of fragments stand for the values that the fragments bind. -/
theorem resolve_scanned (dialect : Dialect) {fragments : List Fragment} (spaced : Spaced fragments)
    {params : List StoredValue} {index : Nat}
    (bound : params.drop index = fragments.filterMap param?) :
    SqlToken.resolve params (position dialect index) (scanned dialect index fragments) =
      some (fragments.flatMap (tokens dialect .value)) := by
  induction fragments generalizing index with
  | nil => rfl
  | cons fragment rest ih =>
    obtain ⟨cut, -, spaced⟩ := spaced
    rw [scanned, List.flatMap_cons]
    cases param : fragment.param? with
    | none =>
      have unbound : fragment.param?.isNone = true := by simp [param]
      rw [List.filterMap_cons_none param] at bound
      rw [resolve_append_of_plain _ _ (plain_tokens dialect _ cut unbound),
        tokens_of_unbound dialect _ unbound]
      simp only [nextIndex, param, Option.isSome_none, Bool.false_eq_true, if_false, ih spaced bound,
        Option.map_some]
    | some value =>
      rw [List.filterMap_cons_some param] at bound
      have found : params[index]? = some value := by
        rw [← List.head?_drop, bound, List.head?_cons]
      have next : params.drop (index + 1) = rest.filterMap Fragment.param? := by
        rw [← List.tail_drop, bound, List.tail_cons]
      have token (written : StoredValue → SqlToken) :
          fragment.tokens dialect written = [written value] := by
        cases fragment with
        | value other =>
          by_cases null : other.isNull = true
          · simp [param?, null] at param
          · simp only [param?, null, Bool.false_eq_true, if_false, Option.some.injEq] at param
            subst param
            simp [tokens, null]
        | words => cases param
        | name => cases param
        | comparison => cases param
        | noLimit => cases param
      rw [token, token, List.singleton_append, resolve_placeholder dialect found]
      simp only [nextIndex, param, Option.isSome_some, if_true, ih spaced next, Option.map_some,
        List.singleton_append]

/-- The tokens that a statement of spaced fragments says, its parameters in their places. -/
theorem resolve_scan_render (dialect : Dialect) {fragments : List Fragment}
    (spaced : Spaced fragments) :
    (scan (render dialect 0 fragments)).bind
        (SqlToken.resolve (fragments.filterMap param?) 0) =
      some (fragments.flatMap (tokens dialect .value)) := by
  have start : position dialect 0 = 0 := by cases dialect <;> rfl
  have bound : (fragments.filterMap param?).drop 0 = fragments.filterMap param? := List.drop_zero
  have resolved := resolve_scanned dialect spaced bound
  rw [start] at resolved
  rw [scan_render dialect spaced, Option.bind_some, resolved]

end Fragment

end RecordStore
