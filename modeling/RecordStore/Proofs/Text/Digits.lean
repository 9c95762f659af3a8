import RecordStore.Text.Digits

/-!
# Reading back digits

Runs of digits are read back whole where no digit follows them.
-/

namespace RecordStore.Text

/-- No digit comes next. -/
def NoDigitNext (text : List Char) : Prop := ∀ c ∈ text.head?, c.isDigit = false

theorem noDigitNext_nil : NoDigitNext [] := by simp [NoDigitNext]

theorem noDigitNext_cons {c : Char} {rest : List Char} (noDigit : c.isDigit = false) :
    NoDigitNext (c :: rest) := by
  simpa [NoDigitNext] using noDigit

theorem leadingDigits_of_noDigitNext {text : List Char} (ends : NoDigitNext text) :
    leadingDigits text = [] ∧ afterDigits text = text := by
  cases text with
  | nil => exact ⟨rfl, rfl⟩
  | cons c rest =>
    have noDigit := ends c rfl
    simp [leadingDigits, afterDigits, noDigit]

/-- A run of digits is read whole. -/
theorem leadingDigits_append {run : List Char} (digits : ∀ c ∈ run, c.isDigit = true)
    {rest : List Char} (ends : NoDigitNext rest) : leadingDigits (run ++ rest) = run := by
  rw [leadingDigits, List.takeWhile_append_of_pos digits, ← leadingDigits,
    (leadingDigits_of_noDigitNext ends).1, List.append_nil]

theorem afterDigits_append {run : List Char} (digits : ∀ c ∈ run, c.isDigit = true)
    {rest : List Char} (ends : NoDigitNext rest) : afterDigits (run ++ rest) = rest := by
  rw [afterDigits, List.dropWhile_append_of_pos digits, ← afterDigits,
    (leadingDigits_of_noDigitNext ends).2]

theorem leadingDigits_digits (n : Nat) {rest : List Char} (ends : NoDigitNext rest) :
    leadingDigits (digits n ++ rest) = digits n :=
  leadingDigits_append (fun _ => isDigit_of_mem_digits) ends

theorem afterDigits_digits (n : Nat) {rest : List Char} (ends : NoDigitNext rest) :
    afterDigits (digits n ++ rest) = rest :=
  afterDigits_append (fun _ => isDigit_of_mem_digits) ends

theorem exists_digits_eq_cons_isDigit (n : Nat) :
    ∃ c run, digits n = c :: run ∧ c.isDigit = true := by
  cases written : digits n with
  | nil => exact absurd written (digits_ne_nil n)
  | cons c run => exact ⟨c, run, rfl, isDigit_of_mem_digits (written ▸ List.mem_cons_self)⟩

/-! ## Runs of a fixed width -/

theorem ofDigits_cons (c : Char) (run : List Char) :
    ofDigits (c :: run) = Nat.pow 10 run.length * (c.toNat - 48) + ofDigits run := by
  rw [ofDigits, Nat.ofDigitChars_cons, Nat.ofDigitChars_eq_ofDigitChars_zero]
  simp [ofDigits]

theorem toNat_of_isDigit {c : Char} (digit : c.isDigit = true) : 48 ≤ c.toNat ∧ c.toNat ≤ 57 := by
  simp only [Char.isDigit, Bool.and_eq_true, decide_eq_true_eq, UInt32.le_iff_toNat_le] at digit
  exact digit

theorem ofDigits_lt {run : List Char} (digits : ∀ c ∈ run, c.isDigit = true) :
    ofDigits run < Nat.pow 10 run.length := by
  induction run with
  | nil => exact Nat.zero_lt_one
  | cons c run ih =>
    have first := toNat_of_isDigit (digits c List.mem_cons_self)
    have rest := ih fun d member => digits d (List.mem_cons_of_mem _ member)
    have most : Nat.pow 10 run.length * (c.toNat - 48) ≤ Nat.pow 10 run.length * 9 :=
      Nat.mul_le_mul_left _ (by omega)
    have step : Nat.pow 10 (c :: run).length = Nat.pow 10 run.length * 10 := rfl
    rw [ofDigits_cons, step]
    omega

/-- Two runs of the same width that write the same number are the same. -/
theorem eq_of_ofDigits_eq {left right : List Char} (leftDigits : ∀ c ∈ left, c.isDigit = true)
    (rightDigits : ∀ c ∈ right, c.isDigit = true) (width : left.length = right.length)
    (same : ofDigits left = ofDigits right) : left = right := by
  induction left generalizing right with
  | nil => exact (List.length_eq_zero_iff.1 width.symm).symm
  | cons c left ih =>
    cases right with
    | nil => cases width
    | cons d right =>
      have width := Nat.succ.inj width
      have leftRest : ∀ e ∈ left, e.isDigit = true := fun e member =>
        leftDigits e (List.mem_cons_of_mem _ member)
      have rightRest : ∀ e ∈ right, e.isDigit = true := fun e member =>
        rightDigits e (List.mem_cons_of_mem _ member)
      have leftLow := ofDigits_lt leftRest
      have rightLow := ofDigits_lt rightRest
      have leftFirst := toNat_of_isDigit (leftDigits c List.mem_cons_self)
      have rightFirst := toNat_of_isDigit (rightDigits d List.mem_cons_self)
      rw [ofDigits_cons, ofDigits_cons, width] at same
      rw [width] at leftLow
      have heads : c.toNat - 48 = d.toNat - 48 := by
        have quotient := congrArg (· / Nat.pow 10 right.length) same
        simpa only [Nat.mul_add_div (Nat.zero_lt_of_lt leftLow), Nat.div_eq_of_lt leftLow,
          Nat.div_eq_of_lt rightLow, Nat.add_zero] using quotient
      have first : c = d := Char.toNat_inj.1 (by omega)
      rw [heads] at same
      rw [first, ih leftRest rightRest width (Nat.add_left_cancel same)]

theorem ofDigits_paddedDigits (width n : Nat) : ofDigits (paddedDigits width n) = n := by
  rw [ofDigits, paddedDigits, Nat.ofDigitChars_append, Nat.ofDigitChars_replicate_zero, Nat.mul_zero]
  exact ofDigits_digits n

theorem isDigit_of_mem_paddedDigits {width n : Nat} {c : Char} (member : c ∈ paddedDigits width n) :
    c.isDigit = true := by
  rcases List.mem_append.1 member with zero | digit
  · rw [(List.mem_replicate.1 zero).2]
    rfl
  · exact isDigit_of_mem_digits digit

theorem paddedDigits_ne_nil (width n : Nat) : paddedDigits width n ≠ [] :=
  List.append_ne_nil_of_right_ne_nil _ (digits_ne_nil n)

theorem exists_paddedDigits_eq_cons (width n : Nat) :
    ∃ c rest, paddedDigits width n = c :: rest ∧ c.isDigit = true := by
  obtain ⟨c, rest, cons⟩ := List.exists_cons_of_ne_nil (paddedDigits_ne_nil width n)
  exact ⟨c, rest, cons, isDigit_of_mem_paddedDigits (cons ▸ List.mem_cons_self)⟩

theorem length_paddedDigits {width n : Nat} (positive : 0 < width) (small : n < Nat.pow 10 width) :
    (paddedDigits width n).length = width := by
  have fits : (digits n).length ≤ width :=
    (Nat.length_toDigits_le_iff (by decide) positive).2 small
  rw [paddedDigits, List.length_append, List.length_replicate]
  omega

/-- A run of digits is what its number is written as in the width of the run. -/
theorem paddedDigits_ofDigits {run : List Char} (nonempty : run ≠ [])
    (digits : ∀ c ∈ run, c.isDigit = true) : paddedDigits run.length (ofDigits run) = run :=
  eq_of_ofDigits_eq (fun _ => isDigit_of_mem_paddedDigits) digits
    (length_paddedDigits (List.length_pos_iff.2 nonempty) (ofDigits_lt digits))
    (ofDigits_paddedDigits _ _)

theorem ofDigits_append (left right : List Char) :
    ofDigits (left ++ right) = Nat.pow 10 right.length * ofDigits left + ofDigits right := by
  induction left with
  | nil => simp [ofDigits]
  | cons c left ih =>
    rw [List.cons_append, ofDigits_cons, ofDigits_cons, ih, List.length_append, Nat.mul_add,
      Nat.add_assoc, ← Nat.mul_assoc]
    congr 2
    exact Nat.pow_add' 10 _ _

/-- A run of digits is the digits of a number in front and those of the rest. -/
theorem paddedDigits_add {width more n : Nat} (positive : 0 < width) (positive' : 0 < more)
    (small : n < Nat.pow 10 (width + more)) :
    paddedDigits (width + more) n =
      paddedDigits width (n / Nat.pow 10 more) ++ paddedDigits more (n % Nat.pow 10 more) := by
  have base : 0 < Nat.pow 10 more := Nat.pow_pos (by decide)
  have front : n / Nat.pow 10 more < Nat.pow 10 width :=
    Nat.div_lt_of_lt_mul (by rw [Nat.mul_comm]; exact Nat.pow_add 10 width more ▸ small)
  have back : n % Nat.pow 10 more < Nat.pow 10 more := Nat.mod_lt n base
  refine eq_of_ofDigits_eq (fun _ => isDigit_of_mem_paddedDigits) (fun c member => ?_) ?_ ?_
  · rcases List.mem_append.1 member with first | last
    · exact isDigit_of_mem_paddedDigits first
    · exact isDigit_of_mem_paddedDigits last
  · rw [length_paddedDigits (by omega) small, List.length_append, length_paddedDigits positive front,
      length_paddedDigits positive' back]
  · rw [ofDigits_append, ofDigits_paddedDigits, ofDigits_paddedDigits, ofDigits_paddedDigits,
      length_paddedDigits positive' back, Nat.div_add_mod]

end RecordStore.Text
