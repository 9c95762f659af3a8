import RecordStore.Proofs.Text.Digits
import RecordStore.Sql.Statement
import RecordStore.Sql.Token

/-!
# Cutting a text into tokens

Some characters end every token before them. Where one of them stands between a text and what follows,
the tokens of the two are found apart from each other (`SqlToken.scan_append`), so that a statement can
be scanned piece by piece and never needs its whole text in sight.
-/

namespace RecordStore

namespace SqlToken

/-! ## Where tokens end -/

/-- A character that no token goes on with. -/
def isBreak (c : Char) : Bool := c == ' ' || c == '(' || c == ')' || c == ',' || c == '.'

theorem isBreak_iff {c : Char} :
    isBreak c = true ↔ c = ' ' ∨ c = '(' ∨ c = ')' ∨ c = ',' ∨ c = '.' := by
  simp [isBreak, or_assoc]

/-- A text that no token before it goes on with. -/
def Separated (text : List Char) : Prop := ∀ c ∈ text.head?, isBreak c = true

theorem separated_nil : Separated [] := by simp [Separated]

theorem separated_cons {c : Char} {rest : List Char} (break_ : isBreak c = true) :
    Separated (c :: rest) := by
  simpa [Separated] using break_

theorem Separated.append {text more : List Char} (separated : Separated text)
    (then_ : Separated more) : Separated (text ++ more) := by
  cases text with
  | nil => exact then_
  | cons c rest => exact separated_cons (separated c rfl)

theorem Separated.head_ne {c : Char} {rest : List Char} (separated : Separated (c :: rest))
    {d : Char} (noBreak : isBreak d = false) : c ≠ d := by
  rintro rfl
  have break_ := separated c rfl
  rw [noBreak] at break_
  cases break_

/-- A run of characters none of which is a break ends before a separated text. -/
theorem takeWhile_append_of_separated {kind : Char → Bool}
    (noBreak : ∀ c, isBreak c = true → kind c = false) {more : List Char}
    (separated : Separated more) (text : List Char) :
    (text ++ more).takeWhile kind = text.takeWhile kind ∧
      (text ++ more).dropWhile kind = text.dropWhile kind ++ more := by
  induction text with
  | nil =>
    cases more with
    | nil => exact ⟨rfl, rfl⟩
    | cons c rest =>
      have outside := noBreak c (separated c rfl)
      simp [outside]
  | cons c rest ih =>
    by_cases inside : kind c = true
    · simpa [inside] using ih
    · simp [inside]

/-- A break is no digit and no character of a word. -/
theorem facts_of_isBreak (c : Char) (break_ : isBreak c = true) :
    c.isDigit = false ∧ isWordChar c = false := by
  rcases isBreak_iff.1 break_ with rfl | rfl | rfl | rfl | rfl <;> exact ⟨rfl, rfl⟩

theorem leadingDigits_append {more : List Char} (separated : Separated more) (text : List Char) :
    Text.leadingDigits (text ++ more) = Text.leadingDigits text :=
  (takeWhile_append_of_separated (fun c break_ => (facts_of_isBreak c break_).1) separated text).1

theorem afterDigits_append {more : List Char} (separated : Separated more) (text : List Char) :
    Text.afterDigits (text ++ more) = Text.afterDigits text ++ more :=
  (takeWhile_append_of_separated (fun c break_ => (facts_of_isBreak c break_).1) separated text).2

/-! ## Identifiers -/

theorem Separated.noQuote {more : List Char} (separated : Separated more) :
    more.head? ≠ some '"' := by
  intro quote
  exact absurd (separated '"' quote) (by decide)

/-- What follows the closing quote of an identifier starts with no quote, which would be read with the
closing one as a quote of the identifier. -/
theorem of_scanIdentifier {text body rest : List Char}
    (scanned : scanIdentifier text = some (body, rest)) :
    text = doubleQuotes body ++ '"' :: rest ∧ rest.head? ≠ some '"' := by
  fun_induction scanIdentifier text generalizing body with
  | case1 => cases scanned
  | case2 tail ih =>
    obtain ⟨⟨inner, after⟩, found, same⟩ := Option.map_eq_some_iff.1 scanned
    cases same
    obtain ⟨parts, ends⟩ := ih found
    exact ⟨by simp [doubleQuotes, parts], ends⟩
  | case3 tail lone =>
    cases scanned
    refine ⟨rfl, fun quote => ?_⟩
    obtain ⟨after, starts⟩ := List.head?_eq_some_iff.1 quote
    exact lone after starts
  | case4 c tail notPair notQuote ih =>
    obtain ⟨⟨inner, after⟩, found, same⟩ := Option.map_eq_some_iff.1 scanned
    cases same
    obtain ⟨parts, ends⟩ := ih found
    have other : c ≠ '"' := fun quote => notQuote quote
    exact ⟨by simp [doubleQuotes, other, parts], ends⟩

/-- An identifier in quotes is read back up to its closing quote, and nothing else is read as it. -/
theorem scanIdentifier_eq_some_iff {text body rest : List Char} :
    scanIdentifier text = some (body, rest) ↔
      text = doubleQuotes body ++ '"' :: rest ∧ rest.head? ≠ some '"' := by
  refine ⟨of_scanIdentifier, ?_⟩
  rintro ⟨rfl, ends⟩
  induction body with
  | nil =>
    cases rest with
    | nil => rfl
    | cons c rest =>
      have other : c ≠ '"' := fun quote => ends (congrArg some quote)
      simp [doubleQuotes, scanIdentifier, other]
  | cons c body ih =>
    by_cases quote : c = '"'
    · subst quote
      simp [doubleQuotes, scanIdentifier, ih]
    · simp [doubleQuotes, scanIdentifier, quote, ih]

theorem scanIdentifier_append {text body rest more : List Char} (separated : Separated more)
    (scanned : scanIdentifier text = some (body, rest)) :
    scanIdentifier (text ++ more) = some (body, rest ++ more) := by
  obtain ⟨rfl, ends⟩ := of_scanIdentifier scanned
  refine scanIdentifier_eq_some_iff.2 ⟨by simp, ?_⟩
  cases rest with
  | nil => exact separated.noQuote
  | cons c rest => exact ends

theorem scanIdentifier_doubleQuotes (identifier : List Char) {more : List Char}
    (separated : Separated more) :
    scanIdentifier (doubleQuotes identifier ++ '"' :: more) = some (identifier, more) :=
  scanIdentifier_eq_some_iff.2 ⟨rfl, separated.noQuote⟩

theorem length_le_of_scanIdentifier {text body rest : List Char}
    (scanned : scanIdentifier text = some (body, rest)) : rest.length ≤ text.length := by
  obtain ⟨rfl, -⟩ := of_scanIdentifier scanned
  simp only [List.length_append, List.length_cons]
  omega

/-! ## One token -/

/-- The token of a character that starts a token of its own kind neither by itself nor with the next
one: a number, a keyword or a symbol. -/
def plainNext (c : Char) (text : List Char) : Option (SqlToken × List Char) :=
  if c.isDigit then
    some (number (Text.ofDigits (Text.leadingDigits (c :: text))), Text.afterDigits text)
  else if c.isAlpha then
    some (word (run isWordChar (c :: text)).1, (run isWordChar (c :: text)).2)
  else if ['(', ')', ',', '=', '<', '>', '*', '.', '-'].contains c then
    some (symbol (String.singleton c), text)
  else none

theorem plainNext_append {c : Char} {text rest more : List Char} {token : SqlToken}
    (separated : Separated more) (scanned : plainNext c text = some (token, rest)) :
    plainNext c (text ++ more) = some (token, rest ++ more) := by
  unfold plainNext at scanned ⊢
  split at scanned
  next digit =>
    cases scanned
    rw [if_pos digit, afterDigits_append separated, ← List.cons_append,
      leadingDigits_append separated]
  next noDigit =>
    rw [if_neg noDigit]
    split at scanned
    next letter =>
      cases scanned
      obtain ⟨same, after⟩ :=
        takeWhile_append_of_separated (fun c break_ => (facts_of_isBreak c break_).2) separated (c :: text)
      rw [if_pos letter, ← List.cons_append, run, same, after, run]
    next noLetter =>
      rw [if_neg noLetter]
      split at scanned
      next mark =>
        cases scanned
        rw [if_pos mark]
      next => cases scanned

/-- A token that ends before the end of a text, or before a break, is the same whatever follows. -/
theorem next_append {c : Char} {text rest more : List Char} {token : SqlToken}
    (separated : Separated more) (scanned : next c text = some (token, rest)) :
    next c (text ++ more) = some (token, rest ++ more) := by
  unfold next at scanned
  split at scanned
  · obtain ⟨⟨body, after⟩, found, same⟩ := Option.map_eq_some_iff.1 scanned
    cases same
    simp [next, scanIdentifier_append separated found]
  · cases scanned
    rfl
  · obtain ⟨position, found, same⟩ := Option.map_eq_some_iff.1 scanned
    cases same
    simp [next, leadingDigits_append separated, afterDigits_append separated, found]
  · cases scanned
    rfl
  · cases scanned
    rfl
  next noQuote noMark noDollar notLess notGreater =>
    -- what follows brings no equality sign to the side of a lone angle bracket
    have stillApart (tail : List Char) (same : text ++ more = '=' :: tail) :
        ∃ tail, text = '=' :: tail := by
      cases text with
      | cons d text =>
        cases same
        exact ⟨text, rfl⟩
      | nil =>
        rw [List.nil_append] at same
        subst same
        exact absurd rfl (separated.head_ne (d := '=') rfl)
    have extended := plainNext_append separated scanned
    rw [next]
    · exact extended
    · exact noQuote
    · exact noMark
    · exact noDollar
    · intro tail less same
      obtain ⟨tail, same⟩ := stillApart tail same
      exact notLess tail less same
    · intro tail greater same
      obtain ⟨tail, same⟩ := stillApart tail same
      exact notGreater tail greater same

theorem length_le_of_next {c : Char} {text rest : List Char} {token : SqlToken}
    (scanned : next c text = some (token, rest)) : rest.length ≤ text.length := by
  unfold next at scanned
  split at scanned
  · obtain ⟨⟨body, after⟩, found, same⟩ := Option.map_eq_some_iff.1 scanned
    cases same
    exact length_le_of_scanIdentifier found
  · cases scanned
    exact Nat.le_refl _
  · obtain ⟨position, found, same⟩ := Option.map_eq_some_iff.1 scanned
    cases same
    exact (List.dropWhile_sublist _).length_le
  · cases scanned
    simp
  · cases scanned
    simp
  · split at scanned
    · cases scanned
      exact (List.dropWhile_sublist _).length_le
    · split at scanned
      next letter =>
        cases scanned
        have inWord : isWordChar c = true := by simp [isWordChar, Char.isAlphanum, letter]
        simp only [run, List.dropWhile_cons, inWord, if_true]
        exact (List.dropWhile_sublist _).length_le
      · split at scanned
        · cases scanned
          exact Nat.le_refl _
        · cases scanned

/-! ## All tokens -/

/-- A limit beyond the number of characters does not matter. -/
theorem scanAll_eq_scan {limit : Nat} {text : List Char} (enough : text.length ≤ limit) :
    scanAll limit text = scan text := by
  induction limit using Nat.strongRecOn generalizing text with
  | ind limit ih =>
    cases text with
    | nil => simp [scan, scanAll]
    | cons c rest =>
      cases limit with
      | zero => simp at enough
      | succ limit =>
        simp only [List.length_cons, Nat.add_le_add_iff_right] at enough
        have shorter {after : List Char} (le : after.length ≤ rest.length) :
            scanAll limit after = scanAll rest.length after := by
          rw [ih limit (Nat.lt_succ_self _) (Nat.le_trans le enough),
            ih rest.length (Nat.lt_succ_of_le enough) le]
        simp only [scan, List.length_cons, scanAll]
        by_cases blank : c = ' '
        · rw [if_pos blank, if_pos blank, shorter (Nat.le_refl _)]
        · rw [if_neg blank, if_neg blank]
          cases scanned : next c rest with
          | none => rfl
          | some result =>
            obtain ⟨token, after⟩ := result
            simp only [Option.bind_eq_bind, Option.bind_some, shorter (length_le_of_next scanned)]

theorem scan_nil : scan [] = some [] := rfl

theorem scan_blank (rest : List Char) : scan (' ' :: rest) = scan rest := rfl

/-- A text starts with the token that its first character begins. -/
theorem scan_cons {c : Char} {text rest : List Char} {token : SqlToken} (noBlank : c ≠ ' ')
    (scanned : next c text = some (token, rest)) :
    scan (c :: text) = (scan rest).map (token :: ·) := by
  have enough := scanAll_eq_scan (length_le_of_next scanned)
  simp only [scan, List.length_cons, scanAll, if_neg noBlank, scanned, Option.bind_eq_bind,
    Option.bind_some]
  rw [enough, scan]
  cases scanAll rest.length rest <;> rfl

/-- What scanning a text that does not start with a blank is made of. -/
theorem of_scan_cons {c : Char} {text : List Char} {tokens : List SqlToken} (noBlank : c ≠ ' ')
    (scanned : scan (c :: text) = some tokens) :
    ∃ token rest others, next c text = some (token, rest) ∧ scan rest = some others ∧
      tokens = token :: others := by
  cases first : next c text with
  | none => simp [scan, scanAll, noBlank, first] at scanned
  | some result =>
    obtain ⟨token, rest⟩ := result
    rw [scan_cons noBlank first] at scanned
    obtain ⟨others, found, same⟩ := Option.map_eq_some_iff.1 scanned
    exact ⟨token, rest, others, rfl, found, same.symm⟩

/-- A text and what follows it are cut apart where a break stands between them. -/
theorem scan_append {text more : List Char} {tokens : List SqlToken} (separated : Separated more)
    (scanned : scan text = some tokens) : scan (text ++ more) = (scan more).map (tokens ++ ·) := by
  induction length : text.length using Nat.strongRecOn generalizing text tokens with
  | ind size ih =>
    cases text with
    | nil =>
      cases scanned
      simp
    | cons c rest =>
      simp only [List.length_cons] at length
      by_cases blank : c = ' '
      · subst blank
        rw [List.cons_append, scan_blank]
        exact ih rest.length (by omega) scanned rfl
      · obtain ⟨token, after, others, first, found, rfl⟩ := of_scan_cons blank scanned
        have shorter := length_le_of_next first
        rw [List.cons_append, scan_cons blank (next_append separated first),
          ih after.length (by omega) found rfl, Option.map_map]
        rfl

/-- The tokens of a break. -/
def breakTokens (c : Char) : List SqlToken := if c = ' ' then [] else [symbol (String.singleton c)]

theorem scan_break {c : Char} (break_ : isBreak c = true) (more : List Char) :
    scan (c :: more) = (scan more).map (breakTokens c ++ ·) := by
  have blank : scan (' ' :: more) = (scan more).map (breakTokens ' ' ++ ·) := by
    rw [scan_blank]
    cases scan more <;> rfl
  rcases isBreak_iff.1 break_ with rfl | rfl | rfl | rfl | rfl
  · exact blank
  all_goals exact scan_cons (by decide) rfl

/-- A text that ends in a break is cut apart from whatever follows. -/
theorem scan_append_of_break {text : List Char} {c : Char} {tokens : List SqlToken}
    (break_ : isBreak c = true) (scanned : scan text = some tokens) (more : List Char) :
    scan (text ++ c :: more) = (scan more).map (tokens ++ breakTokens c ++ ·) := by
  rw [scan_append (separated_cons break_) scanned, scan_break break_, Option.map_map]
  simp only [Function.comp_def, List.append_assoc]

theorem scan_digits (n : Nat) : scan (Text.digits n) = some [number n] := by
  have run := Text.leadingDigits_digits n Text.noDigitNext_nil
  have after := Text.afterDigits_digits n Text.noDigitNext_nil
  rw [List.append_nil] at run after
  cases digits : Text.digits n with
  | nil => exact absurd digits (Text.digits_ne_nil n)
  | cons d rest =>
    have digit : d.isDigit = true := Text.isDigit_of_mem_digits (digits ▸ List.mem_cons_self)
    have value : Text.ofDigits (d :: rest) = n := by rw [← digits, Text.ofDigits_digits]
    rw [digits] at run after
    rw [Text.afterDigits, List.dropWhile_cons_of_pos digit, ← Text.afterDigits] at after
    have plain : plainNext d rest = some (number n, []) := by
      simp [plainNext, digit, run, value, after]
    have first : next d rest = some (number n, []) := by
      rw [next]
      · exact plain
      all_goals
        intros
        subst_vars
        cases digit
    have noBlank : d ≠ ' ' := by
      rintro rfl
      cases digit
    rw [scan_cons noBlank first]
    rfl

end SqlToken

end RecordStore
