import RecordStore.Json.Printer
import RecordStore.Json.Reader
import RecordStore.Proofs.Text.Digits

/-!
# Reading back strings and integers

A string is read back from its text whatever characters it has (`Json.readString_stringText`), and so
is every integer that a JSON number holds (`Json.readNumber_signedDigits`).
-/

namespace RecordStore.Json

open Text

/-! ## Escapes -/

theorem hexValue?_digitChar {d : Nat} (small : d < 16) : hexValue? d.digitChar = some d := by
  have all : ∀ d < 16, hexValue? d.digitChar = some d := by decide
  exact all d small

/-- The two hexadecimal digits of a byte. -/
theorem paddedHexDigits {n : Nat} (small : n < 256) :
    List.replicate (2 - (hexDigits n).length) '0' ++ hexDigits n =
      [(n / 16).digitChar, (n % 16).digitChar] := by
  by_cases single : n < 16
  · have digits : hexDigits n = [n.digitChar] := Nat.toDigits_of_lt_base single
    rw [digits, Nat.div_eq_of_lt single, Nat.mod_eq_of_lt single]
    rfl
  · have digits : hexDigits n = [(n / 16).digitChar, (n % 16).digitChar] := by
      rw [hexDigits, Nat.toDigits_of_base_le (by decide) (by omega),
        Nat.toDigits_of_lt_base (show n / 16 < 16 by omega)]
      rfl
    rw [digits]
    rfl

theorem codeUnit?_paddedHexDigits {n : Nat} (small : n < 256) :
    codeUnit? '0' '0' (n / 16).digitChar (n % 16).digitChar = some n := by
  have zero : hexValue? '0' = some 0 := rfl
  have high := hexValue?_digitChar (show n / 16 < 16 by omega)
  have low := hexValue?_digitChar (show n % 16 < 16 by omega)
  simp only [codeUnit?, hexadecimal?, List.foldl_cons, List.foldl_nil, zero, high, low,
    Option.bind_eq_bind, Option.bind_some, Option.pure_def, Option.some.injEq]
  omega

theorem stringBody_shortEscape {letter c : Char} (known : shortEscape? letter = some c)
    (rest : List Char) :
    stringBody ('\\' :: letter :: rest) =
      (stringBody rest).map fun (body, rest) => (c :: body, rest) := by
  rw [stringBody, known]
  · cases stringBody rest <;> rfl
  · rintro _ _ _ _ _ rfl
    cases known

theorem stringBody_hexEscape {n : Nat} (small : n < 256) (rest : List Char) :
    stringBody ('\\' :: 'u' :: '0' :: '0' :: (n / 16).digitChar :: (n % 16).digitChar :: rest) =
      (stringBody rest).map fun (body, rest) => (Char.ofNat n :: body, rest) := by
  have notLow : isLowSurrogate n = false := by
    simp only [isLowSurrogate, Bool.and_eq_false_iff, decide_eq_false_iff_not]
    omega
  have notHigh : isHighSurrogate n = false := by
    simp only [isHighSurrogate, Bool.and_eq_false_iff, decide_eq_false_iff_not]
    omega
  rw [stringBody, codeUnit?_paddedHexDigits small]
  simp only [Option.bind_eq_bind, Option.bind_some, notLow, notHigh, Bool.false_eq_true, if_false]
  cases stringBody rest <;> rfl

theorem stringBody_plain {c : Char} (printed : 32 ≤ c.toNat) (noQuote : c ≠ '"')
    (noBackslash : c ≠ '\\') (rest : List Char) :
    stringBody (c :: rest) = (stringBody rest).map fun (body, rest) => (c :: body, rest) := by
  rw [stringBody]
  · rw [if_neg (by omega)]
    cases stringBody rest <;> rfl
  · exact noQuote
  · rintro _ _ _ _ _ rfl
    exact absurd rfl noBackslash
  · rintro _ _ rfl
    exact absurd rfl noBackslash

/-- A character is read back from how it is written inside a string. -/
theorem stringBody_escapedChar (c : Char) (rest : List Char) :
    stringBody (escapedChar c ++ rest) =
      (stringBody rest).map fun (body, rest) => (c :: body, rest) := by
  unfold escapedChar
  split
  · exact stringBody_shortEscape rfl rest
  · exact stringBody_shortEscape rfl rest
  · exact stringBody_shortEscape rfl rest
  · exact stringBody_shortEscape rfl rest
  · exact stringBody_shortEscape rfl rest
  · exact stringBody_shortEscape rfl rest
  · exact stringBody_shortEscape rfl rest
  · next noQuote noBackslash _ _ _ _ _ =>
    split
    · next control =>
      have written := stringBody_hexEscape (show c.toNat < 256 by omega) rest
      rw [Char.ofNat_toNat] at written
      rw [List.append_assoc ['\\', 'u', '0', '0'], paddedHexDigits (show c.toNat < 256 by omega)]
      exact written
    · next printed => exact stringBody_plain (by omega) noQuote noBackslash rest

/-- A string is read back from its text. -/
theorem readString_stringText (value : String) (rest : List Char) :
    readString (stringText value ++ rest) = some (value, rest) := by
  have body (characters : List Char) :
      stringBody (characters.flatMap escapedChar ++ '"' :: rest) = some (characters, rest) := by
    induction characters with
    | nil => rfl
    | cons c characters ih =>
      rw [List.flatMap_cons, List.append_assoc, stringBody_escapedChar, ih]
      rfl
  rw [stringText, List.cons_append, List.cons_append, List.append_assoc, List.singleton_append,
    readString, body]
  simp

/-! ## Integers -/

/-- What may follow a number without being taken for more of it. -/
def EndsNumber (rest : List Char) : Prop :=
  ∀ c ∈ rest.head?, c.isDigit = false ∧ c ≠ '.' ∧ c ≠ 'e' ∧ c ≠ 'E'

/-- The digits of a number do not begin with zero, unless it is zero. -/
theorem exists_digits_eq_cons {n : Nat} (positive : 0 < n) :
    ∃ c run, digits n = c :: run ∧ c ≠ '0' := by
  induction n using Nat.strongRecOn with
  | ind n ih =>
    by_cases single : n < 10
    · refine ⟨n.digitChar, [], Nat.toDigits_of_lt_base single, ?_⟩
      rw [Ne, Nat.digitChar_eq_zero]
      omega
    · obtain ⟨c, run, begins, notZero⟩ := ih (n / 10) (by omega) (by omega)
      refine ⟨c, run ++ [(n % 10).digitChar], ?_, notZero⟩
      rw [digits, Nat.toDigits_of_base_le (by decide) (by omega), ← digits, begins]
      rfl

theorem wholePart?_digits (n : Nat) {rest : List Char} (ends : NoDigitNext rest) :
    wholePart? (digits n ++ rest) = some (digits n, rest) := by
  rw [wholePart?, leadingDigits_digits n ends, afterDigits_digits n ends]
  by_cases zero : n = 0
  · subst zero
    rfl
  · obtain ⟨c, run, begins, notZero⟩ := exists_digits_eq_cons (Nat.pos_of_ne_zero zero)
    rw [begins]
    split
    · next nothing => cases nothing
    · next same =>
      cases same
      exact absurd rfl notZero
    · next same =>
      cases same
      exact absurd rfl notZero
    · rfl

/-- No fraction and no exponent follow. -/
theorem fractionPart?_of_endsNumber {rest : List Char} (ends : EndsNumber rest) :
    fractionPart? rest = some (none, rest) ∧ exponentPart? rest = some (none, rest) := by
  cases rest with
  | nil => exact ⟨rfl, rfl⟩
  | cons c rest =>
    obtain ⟨-, noPoint, noMark, noCapital⟩ := ends c rfl
    constructor
    · rw [fractionPart?]
      rintro _ same
      cases same
      exact noPoint rfl
    · rw [exponentPart?]
      · rintro _ same
        cases same
        exact noMark rfl
      · rintro _ same
        cases same
        exact noCapital rfl

/-- Digits with nothing after them are an integer where it fits. -/
theorem unsignedNumber?_digits (negative : Bool) (n : Nat) {value : Int}
    (range : -9223372036854775808 ≤ value ∧ value < 18446744073709551616)
    (same : (if negative then -(n : Int) else n) = value) (signed : negative = true → n ≠ 0)
    {rest : List Char} (ends : EndsNumber rest) :
    unsignedNumber? negative (digits n ++ rest) = some (.integer value range, rest) := by
  have noDigit : NoDigitNext rest := fun c head => (ends c head).1
  obtain ⟨noFraction, noExponent⟩ := fractionPart?_of_endsNumber ends
  have literal : integerLiteral? negative (digits n) = some (.integer value range) := by
    have notMinusZero : ¬(negative = true ∧ value = 0) := by
      rintro ⟨isNegative, zero⟩
      rw [isNegative, if_pos rfl, zero] at same
      exact signed isNegative (by omega)
    simp only [integerLiteral?, ofDigits_digits, same]
    rw [dif_pos ⟨range, notMinusZero⟩]
  rw [unsignedNumber?, wholePart?_digits n noDigit]
  simp only [Option.bind_eq_bind, Option.bind_some, noFraction, noExponent, literal, Option.pure_def]

/-- An integer is read back from its text. -/
theorem readNumber_signedDigits {value : Int}
    (range : -9223372036854775808 ≤ value ∧ value < 18446744073709551616) {rest : List Char}
    (ends : EndsNumber rest) :
    readNumber (signedDigits value ++ rest) = some (.integer value range, rest) := by
  rw [signedDigits]
  split
  · next below =>
    rw [List.cons_append, readNumber]
    exact unsignedNumber?_digits true _ range (by rw [if_pos rfl]; omega) (fun _ => by omega) ends
  · next notBelow =>
    have read := unsignedNumber?_digits false value.natAbs range
      (by rw [if_neg Bool.false_ne_true]; omega) nofun ends
    rw [readNumber]
    · exact read
    · rintro _ same
      obtain ⟨c, run, begins, digit⟩ := exists_digits_eq_cons_isDigit value.natAbs
      rw [begins] at same
      cases same
      cases digit

/-- The text of an integer begins with a minus sign or a digit. -/
theorem exists_signedDigits_eq_cons (value : Int) :
    ∃ c run, signedDigits value = c :: run ∧ (c = '-' ∨ c.isDigit = true) := by
  rw [signedDigits]
  split
  · exact ⟨'-', _, rfl, .inl rfl⟩
  · obtain ⟨c, run, begins, digit⟩ := exists_digits_eq_cons_isDigit value.natAbs
    exact ⟨c, run, begins, .inr digit⟩

/-- What begins with a minus sign or a digit begins with no other character. -/
theorem ne_of_beginsNumber {c d : Char} (first : c = '-' ∨ c.isDigit = true)
    (other : d ≠ '-' ∧ d.isDigit = false) : c ≠ d := by
  rintro rfl
  rcases first with minus | digit
  · exact other.1 minus
  · rw [other.2] at digit
    cases digit

/-- An integer is read as a value from its text. -/
theorem readScalar_signedDigits {value : Int}
    (range : -9223372036854775808 ≤ value ∧ value < 18446744073709551616) {rest : List Char}
    (ends : EndsNumber rest) :
    readScalar (signedDigits value ++ rest) = some (.number (.integer value range), rest) := by
  have read := readNumber_signedDigits range ends
  obtain ⟨c, run, begins, first⟩ := exists_signedDigits_eq_cons value
  rw [begins, List.cons_append] at read ⊢
  have different {d : Char} {more : List Char} (other : d ≠ '-' ∧ d.isDigit = false) :
      c :: (run ++ rest) ≠ d :: more := fun same =>
    ne_of_beginsNumber first other (List.cons.inj same).1
  unfold readScalar
  split
  · next same => exact absurd same (different (by decide))
  · next same => exact absurd same (different (by decide))
  · next same => exact absurd same (different (by decide))
  · next same => exact absurd same (different (by decide))
  · rw [read]
    rfl

end RecordStore.Json
