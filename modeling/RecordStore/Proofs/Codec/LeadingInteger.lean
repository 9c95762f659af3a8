import RecordStore.Codec.Text
import RecordStore.Proofs.Text.Blank

/-!
# Integers at the front of a text

The codec of integers reads the integer that a text begins with, whatever follows it, and refuses a
text that begins with no integer or with one beyond a signed word. The digits are read before the sign
counts, so the least signed word is refused too, whose digits alone are beyond the greatest
(`Codec.decode_leading_integer_iff`).
-/

namespace RecordStore

open Text

/-! ## Texts that begin with an integer -/

/-- How the sign of an integer is written, and whether it makes the integer negative. -/
inductive WritesSign : Bool → List Char → Prop where
  | absent : WritesSign false []
  | plus : WritesSign false ['+']
  | minus : WritesSign true ['-']

/-- A text begins with an integer if its first character that is not blank is a digit or a sign before
a digit. The integer is what the sign and the longest run of digits write; anything may follow. -/
inductive BeginsWithInteger : String → Int → Prop where
  | mk {blanks sign run rest : List Char} {negative : Bool} (blank : ∀ c ∈ blanks, isBlank c = true)
    (signed : WritesSign negative sign) (digits : ∀ c ∈ run, c.isDigit = true) (nonempty : run ≠ [])
    (longest : NoDigitNext rest) :
    BeginsWithInteger (String.ofList (blanks ++ (sign ++ (run ++ rest))))
      (if negative then -(ofDigits run : Int) else ofDigits run)

/-- No sign comes next. -/
def NoSignNext (text : List Char) : Prop := ∀ c ∈ text.head?, c ≠ '+' ∧ c ≠ '-'

theorem noSignNext_of_isDigit {run : List Char} (digits : ∀ c ∈ run, c.isDigit = true)
    (nonempty : run ≠ []) (rest : List Char) : NoSignNext (run ++ rest) := by
  obtain ⟨first, more, rfl⟩ := List.exists_cons_of_ne_nil nonempty
  rintro _ ⟨⟩
  have digit := digits first List.mem_cons_self
  constructor
  · rintro rfl
    cases digit
  · rintro rfl
    cases digit

/-- A text is split into a sign and what does not begin with one. -/
theorem exists_sign (text : List Char) :
    ∃ negative sign rest, WritesSign negative sign ∧ text = sign ++ rest ∧
      (sign = [] → NoSignNext rest) := by
  by_cases signed : NoSignNext text
  · exact ⟨false, [], text, .absent, rfl, fun _ => signed⟩
  · cases text with
    | nil => exact absurd nofun signed
    | cons c rest =>
      by_cases plus : c = '+'
      · exact ⟨false, ['+'], rest, .plus, by rw [plus]; rfl, nofun⟩
      by_cases minus : c = '-'
      · exact ⟨true, ['-'], rest, .minus, by rw [minus]; rfl, nofun⟩
      refine absurd ?_ signed
      rintro _ ⟨⟩
      exact ⟨plus, minus⟩

/-! ## Reading -/

/-- After the sign the longest run of digits is read, if it is not too long. -/
theorem leadingInteger?_of_sign {text : String} {negative : Bool} {sign rest : List Char}
    (signed : WritesSign negative sign) (trimmed : trimStart text.toList = sign ++ rest)
    (unsigned : sign = [] → NoSignNext rest) :
    leadingInteger? text =
      if (leadingDigits rest).isEmpty || 9223372036854775808 ≤ ofDigits (leadingDigits rest) then none
      else some (Int64.ofInt
        (if negative then -(ofDigits (leadingDigits rest) : Int) else ofDigits (leadingDigits rest))) := by
  rw [leadingInteger?, trimmed]
  cases signed with
  | plus => rfl
  | minus => rfl
  | absent =>
    cases rest with
    | nil => rfl
    | cons c more =>
      obtain ⟨noPlus, noMinus⟩ := unsigned rfl c rfl
      rw [List.nil_append]
      split
      next negative found same =>
        split at same
        · next plus => exact absurd (List.cons.inj plus).1 noMinus
        · next minus => exact absurd (List.cons.inj minus).1 noPlus
        · cases same
          rfl

/-- A text that begins with an integer is read as that integer if its digits alone are a signed word. -/
theorem leadingInteger?_of_begins {text : String} {n : Int} (begins : BeginsWithInteger text n) :
    leadingInteger? text =
      if n.natAbs < 9223372036854775808 then some (Int64.ofInt n) else none := by
  cases begins with
  | @mk blanks sign run rest negative blank signed digits nonempty longest =>
    have notBlank : ∀ c ∈ (sign ++ (run ++ rest)).head?, isBlank c = false := by
      cases signed with
      | plus => rintro _ ⟨⟩; decide
      | minus => rintro _ ⟨⟩; decide
      | absent =>
        obtain ⟨first, more, rfl⟩ := List.exists_cons_of_ne_nil nonempty
        rintro _ ⟨⟩
        exact isBlank_of_isDigit (digits _ List.mem_cons_self)
    have trimmed : trimStart (String.ofList (blanks ++ (sign ++ (run ++ rest)))).toList =
        sign ++ (run ++ rest) := by
      rw [String.toList_ofList, trimStart, List.dropWhile_append_of_pos blank]
      exact trimStart_of_head notBlank
    have magnitude : (if negative then -(ofDigits run : Int) else ofDigits run).natAbs =
        ofDigits run := by
      cases negative <;> simp
    rw [leadingInteger?_of_sign signed trimmed fun _ => noSignNext_of_isDigit digits nonempty rest,
      leadingDigits_append digits longest, magnitude, List.isEmpty_eq_false_iff.2 nonempty]
    by_cases fits : ofDigits run < 9223372036854775808
    · simp only [fits, Nat.not_le.2 fits, decide_false, Bool.or_self, Bool.false_eq_true, if_false,
        if_true]
    · simp only [fits, Nat.not_lt.1 fits, decide_true, Bool.or_true, if_false, if_true]

/-- Nothing is read from a text that begins with no integer. -/
theorem leadingInteger?_eq_none {text : String} (without : ∀ n, ¬ BeginsWithInteger text n) :
    leadingInteger? text = none := by
  obtain ⟨negative, sign, rest, signed, trimmed, unsigned⟩ := exists_sign (trimStart text.toList)
  have noDigits : leadingDigits rest = [] := by
    refine Decidable.byContradiction fun nonempty => ?_
    have whole : text = String.ofList (text.toList.takeWhile isBlank ++
        (sign ++ (leadingDigits rest ++ afterDigits rest))) := by
      rw [leadingDigits_append_afterDigits, ← trimmed, trimStart, List.takeWhile_append_dropWhile,
        String.ofList_toList]
    have longest : NoDigitNext (afterDigits rest) := fun c head => by
      have stopped := List.head?_dropWhile_not Char.isDigit rest
      rw [← afterDigits, head] at stopped
      simpa using stopped
    have blank : ∀ c ∈ text.toList.takeWhile isBlank, isBlank c = true :=
      List.all_eq_true.1 List.all_takeWhile
    have begins := BeginsWithInteger.mk blank signed (fun _ => isDigit_of_mem_leadingDigits)
      nonempty longest
    rw [← whole] at begins
    exact without _ begins
  rw [leadingInteger?_of_sign signed trimmed unsigned, noDigits]
  rfl

/-- A text begins with an integer if its decimal text stands there after blanks and no digit follows. -/
theorem beginsWithInteger_of_signedDigits (n : Int) {blanks rest : List Char}
    (blank : ∀ c ∈ blanks, isBlank c = true) (longest : NoDigitNext rest) :
    BeginsWithInteger (String.ofList (blanks ++ (signedDigits n ++ rest))) n := by
  have digits (c : Char) : c ∈ Text.digits n.natAbs → c.isDigit = true := isDigit_of_mem_digits
  by_cases negative : n < 0
  · have begins := BeginsWithInteger.mk blank .minus digits (digits_ne_nil _) longest
    have value : -((n.natAbs : Nat) : Int) = n := by omega
    simpa only [signedDigits, negative, if_true, ofDigits_digits, value, List.cons_append,
      List.nil_append] using begins
  · have begins := BeginsWithInteger.mk blank .absent digits (digits_ne_nil _) longest
    have value : ((n.natAbs : Nat) : Int) = n := by omega
    simpa only [signedDigits, negative, if_false, ofDigits_digits, value, List.nil_append,
      Bool.false_eq_true] using begins

/-- The decimal text of an integer begins with it. -/
theorem beginsWithInteger_signedDigits (n : Int) :
    BeginsWithInteger (String.ofList (signedDigits n)) n := by
  have begins := @beginsWithInteger_of_signedDigits n [] [] nofun noDigitNext_nil
  rwa [List.nil_append, List.append_nil] at begins

/-! ## Decoding -/

namespace Codec

/-- What a stored text is decoded as is the integer that is read from it. -/
theorem decode_integer_of_text {text : String} {stored : StoredValue}
    (holds : stored = .string text ∨ stored = .json (.string text)) :
    integer.decode stored =
      match leadingInteger? text with
      | some n => .ok (.number (.ofInt64 n))
      | none => .error (.decode .integer stored) := by
  rcases holds with rfl | rfl <;> rfl

section Begins

variable {text : String} {stored : StoredValue}

/-- The integer that a text begins with is decoded if its digits alone are a signed word. -/
theorem decode_integer_of_begins (holds : stored = .string text ∨ stored = .json (.string text))
    {n : Int} (begins : BeginsWithInteger text n) :
    integer.decode stored =
      if -9223372036854775808 < n ∧ n < 9223372036854775808 then .ok (.number (.ofInt64 (.ofInt n)))
      else .error (.decode .integer stored) := by
  have fits : n.natAbs < 9223372036854775808 ↔
      -9223372036854775808 < n ∧ n < 9223372036854775808 := by omega
  rw [decode_integer_of_text holds, leadingInteger?_of_begins begins]
  by_cases word : n.natAbs < 9223372036854775808
  · rw [if_pos word, if_pos (fits.1 word)]
  · rw [if_neg word, if_neg fun bounds => word (fits.2 bounds)]

/-- Of the signed words only the least is not decoded from the texts that begin with it. -/
theorem decode_integer_of_word_iff (holds : stored = .string text ∨ stored = .json (.string text))
    {n : Int64} (begins : BeginsWithInteger text n.toInt) :
    integer.decode stored = .ok (.number (.ofInt64 n)) ↔ n ≠ .minValue := by
  have low : -9223372036854775808 ≤ n.toInt := n.le_toInt
  have high : n.toInt < 9223372036854775808 := n.toInt_lt
  rw [decode_integer_of_begins holds begins, Int64.ofInt_toInt, ne_eq, ← Int64.toInt_inj]
  show _ ↔ ¬ n.toInt = -9223372036854775808
  by_cases least : n.toInt = -9223372036854775808
  · rw [if_neg (by omega)]
    exact ⟨nofun, fun other => absurd least other⟩
  · rw [if_pos (by omega)]
    exact ⟨fun _ => least, fun _ => rfl⟩

/-- A text is decoded as the integer it begins with if that is between the least signed word and the
one after the greatest, both excluded, and refused otherwise. So a text is decoded as any signed word
that it begins with if it does not begin with the least one, and the decimal text of every signed word
but the least is decoded as that word. -/
theorem decode_leading_integer_iff (holds : stored = .string text ∨ stored = .json (.string text)) :
    (∀ n, BeginsWithInteger text n → integer.decode stored =
      if -9223372036854775808 < n ∧ n < 9223372036854775808 then .ok (.number (.ofInt64 (.ofInt n)))
      else .error (.decode .integer stored)) ∧
    ((∀ n, ¬ BeginsWithInteger text n) → integer.decode stored = .error (.decode .integer stored)) ∧
    ((∀ n : Int64, BeginsWithInteger text n.toInt →
        integer.decode stored = .ok (.number (.ofInt64 n))) ↔
      ¬ BeginsWithInteger text Int64.minValue.toInt) ∧
    ∀ n : Int64, integer.decode (.string (String.ofList (signedDigits n.toInt))) =
      .ok (.number (.ofInt64 n)) ↔ n ≠ .minValue := by
  refine ⟨fun n => decode_integer_of_begins holds, fun without => ?_, ⟨fun claimed least => ?_, ?_⟩,
    fun n => decode_integer_of_word_iff (.inl rfl) (beginsWithInteger_signedDigits _)⟩
  · rw [decode_integer_of_text holds, leadingInteger?_eq_none without]
  · exact (decode_integer_of_word_iff holds least).1 (claimed _ least) rfl
  · intro other n begins
    refine (decode_integer_of_word_iff holds begins).2 ?_
    rintro rfl
    exact other begins

end Begins

/-- An ideographic space, leading zeros and accented letters after the digits do not matter. -/
theorem decode_leading_integer_iff_accented :
    BeginsWithInteger "\u3000-007é8" (-7) ∧
      integer.decode (.json (.string "\u3000-007é8")) = .ok (.number (.ofInt64 (-7))) := by
  have blank : ∀ c ∈ ['\u3000'], isBlank c = true := List.all_eq_true.1 (by decide)
  have digits : ∀ c ∈ "007".toList, c.isDigit = true := List.all_eq_true.1 (by decide)
  have begins : BeginsWithInteger "\u3000-007é8" (-7) :=
    @BeginsWithInteger.mk _ _ _ "é8".toList _ blank .minus digits (by decide) (noDigitNext_cons rfl)
  exact ⟨begins, (decode_leading_integer_iff (.inr rfl)).1 (-7) begins⟩

/-- The least signed word is refused, though the text begins with it. -/
theorem decode_least_integer :
    BeginsWithInteger "-9223372036854775808" Int64.minValue.toInt ∧
      integer.decode (.string "-9223372036854775808") ≠ .ok (.number (.ofInt64 .minValue)) := by
  have begins : BeginsWithInteger "-9223372036854775808" Int64.minValue.toInt :=
    beginsWithInteger_signedDigits Int64.minValue.toInt
  exact ⟨begins, fun same => (decode_integer_of_word_iff (.inl rfl) begins).1 same rfl⟩

end Codec

end RecordStore
