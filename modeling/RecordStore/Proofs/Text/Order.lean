import RecordStore.Memory.Cell
import RecordStore.Proofs.Text.Digits

/-!
# The order of texts

Texts are ordered by code points, which is the order of their bytes in UTF-8 (`Text.utf8_lt_iff`). Texts
of the same length in front are compared before what follows them, and runs of digits of the same length
are ordered as the numbers they write (`Text.codeOrder_paddedDigits_append`).
-/

namespace RecordStore

/-! ## Lists of numbers -/

namespace Cell

theorem compareLists_swap (left right : List Nat) :
    (compareLists left right).swap = compareLists right left := by
  induction left generalizing right with
  | nil => cases right <;> rfl
  | cons a left ih =>
    cases right with
    | nil => rfl
    | cons b right => rw [compareLists, Ordering.swap_then, Nat.compare_swap, ih, compareLists]

theorem compareLists_append {front other : List Nat} (length : front.length = other.length)
    (left right : List Nat) :
    compareLists (front ++ left) (other ++ right) =
      (compareLists front other).then (compareLists left right) := by
  induction front generalizing other with
  | nil =>
    cases List.length_eq_zero_iff.1 length.symm
    rfl
  | cons a front ih =>
    cases other with
    | nil => cases length
    | cons b other =>
      rw [List.cons_append, List.cons_append, compareLists, compareLists, ih (Nat.succ.inj length),
        Ordering.then_assoc]

theorem compareLists_cons_of_lt {a b : Nat} (less : a < b) (left right : List Nat) :
    compareLists (a :: left) (b :: right) = .lt := by
  rw [compareLists, Nat.compare_eq_lt.2 less, Ordering.lt_then]

theorem compareLists_append_of_lt {front other : List Nat} (length : front.length = other.length)
    (less : compareLists front other = .lt) (left right : List Nat) :
    compareLists (front ++ left) (other ++ right) = .lt := by
  rw [compareLists_append length, less, Ordering.lt_then]

theorem compareLists_eq_iff (left right : List Nat) : compareLists left right = .eq ↔ left = right := by
  induction left generalizing right with
  | nil => cases right <;> simp [compareLists]
  | cons a left ih =>
    cases right with
    | nil => simp [compareLists]
    | cons b right => simp [compareLists, Ordering.then_eq_eq, ih]

theorem compareLists_append_left (front left right : List Nat) :
    compareLists (front ++ left) (front ++ right) = compareLists left right := by
  rw [compareLists_append rfl, (compareLists_eq_iff front front).2 rfl, Ordering.eq_then]

end Cell

/-! ## Comparisons -/

/-- Two comparisons agree if they say less and greater for the same values. -/
theorem ordering_ext {first second : Ordering} (less : first = .lt ↔ second = .lt)
    (greater : first = .gt ↔ second = .gt) : first = second := by
  cases first <;> cases second <;> simp_all

/-- Numbers of two digits to a base are compared digit by digit. -/
theorem compare_mul_add {base a b : Nat} (low : a < base) (low' : b < base) (m n : Nat) :
    compare (base * m + a) (base * n + b) = (compare m n).then (compare a b) := by
  rcases Nat.lt_trichotomy m n with less | rfl | greater
  · have step : base * m + base ≤ base * n := Nat.mul_le_mul_left base less
    rw [Nat.compare_eq_lt.2 less, Nat.compare_eq_lt.2 (by omega)]
    rfl
  · rw [Std.compare_self, Ordering.eq_then]
    exact ordering_ext (by rw [Nat.compare_eq_lt, Nat.compare_eq_lt]; omega)
      (by rw [Nat.compare_eq_gt, Nat.compare_eq_gt]; omega)
  · have step : base * n + base ≤ base * m := Nat.mul_le_mul_left base greater
    rw [Nat.compare_eq_gt.2 greater, Nat.compare_eq_gt.2 (by omega)]
    rfl

namespace Text

/-! ## Code points -/

/-- The order of texts by code points. -/
def codeOrder (left right : List Char) : Ordering :=
  Cell.compareLists (left.map Char.toNat) (right.map Char.toNat)

theorem codeOrder_swap (left right : List Char) :
    (codeOrder left right).swap = codeOrder right left :=
  Cell.compareLists_swap _ _

theorem codeOrder_cons (c d : Char) (left right : List Char) :
    codeOrder (c :: left) (d :: right) = (compare c.toNat d.toNat).then (codeOrder left right) := rfl

theorem codeOrder_cons_self (c : Char) (left right : List Char) :
    codeOrder (c :: left) (c :: right) = codeOrder left right := by
  rw [codeOrder_cons, Std.compare_self, Ordering.eq_then]

theorem codeOrder_append {front other : List Char} (length : front.length = other.length)
    (left right : List Char) :
    codeOrder (front ++ left) (other ++ right) =
      (codeOrder front other).then (codeOrder left right) := by
  rw [codeOrder, List.map_append, List.map_append, Cell.compareLists_append (by simpa using length)]
  rfl

/-! ## Digits -/

/-- Runs of digits of the same length are ordered as their numbers. -/
theorem codeOrder_digits {left right : List Char} (leftDigits : ∀ c ∈ left, c.isDigit = true)
    (rightDigits : ∀ c ∈ right, c.isDigit = true) (width : left.length = right.length) :
    codeOrder left right = compare (ofDigits left) (ofDigits right) := by
  induction left generalizing right with
  | nil =>
    cases List.length_eq_zero_iff.1 width.symm
    rfl
  | cons c left ih =>
    cases right with
    | nil => cases width
    | cons d right =>
      have width := Nat.succ.inj width
      have leftRest : ∀ e ∈ left, e.isDigit = true := fun e member =>
        leftDigits e (List.mem_cons_of_mem _ member)
      have rightRest : ∀ e ∈ right, e.isDigit = true := fun e member =>
        rightDigits e (List.mem_cons_of_mem _ member)
      have leftLow := ofDigits_lt leftRest
      have rightLow := ofDigits_lt rightRest
      have leftFirst := toNat_of_isDigit (leftDigits c List.mem_cons_self)
      have rightFirst := toNat_of_isDigit (rightDigits d List.mem_cons_self)
      have first : compare c.toNat d.toNat = compare (c.toNat - 48) (d.toNat - 48) :=
        ordering_ext (by rw [Nat.compare_eq_lt, Nat.compare_eq_lt]; omega)
          (by rw [Nat.compare_eq_gt, Nat.compare_eq_gt]; omega)
      rw [width] at leftLow
      rw [codeOrder_cons, first, ih leftRest rightRest width, ofDigits_cons, ofDigits_cons, width,
        compare_mul_add leftLow rightLow]

theorem codeOrder_paddedDigits_append {width m n : Nat} (positive : 0 < width)
    (small : m < Nat.pow 10 width) (small' : n < Nat.pow 10 width) (left right : List Char) :
    codeOrder (paddedDigits width m ++ left) (paddedDigits width n ++ right) =
      (compare m n).then (codeOrder left right) := by
  have length : (paddedDigits width m).length = (paddedDigits width n).length := by
    rw [length_paddedDigits positive small, length_paddedDigits positive small']
  rw [codeOrder_append length, codeOrder_digits (fun _ => isDigit_of_mem_paddedDigits)
    (fun _ => isDigit_of_mem_paddedDigits) length, ofDigits_paddedDigits, ofDigits_paddedDigits]

/-! ## Bytes -/

/-- The bytes of a character in UTF-8 as numbers: one, two, three or four of them, the first of which
tells how many there are. -/
theorem utf8_cases (c : Char) :
    (c.toNat < 0x80 ∧ (String.utf8EncodeChar c).map UInt8.toNat = [c.toNat]) ∨
    ((0x80 ≤ c.toNat ∧ c.toNat < 0x800) ∧ (String.utf8EncodeChar c).map UInt8.toNat =
      [c.toNat / 64 + 192, c.toNat % 64 + 128]) ∨
    ((0x800 ≤ c.toNat ∧ c.toNat < 0x10000) ∧ (String.utf8EncodeChar c).map UInt8.toNat =
      [c.toNat / 4096 + 224, c.toNat / 64 % 64 + 128, c.toNat % 64 + 128]) ∨
    ((0x10000 ≤ c.toNat ∧ c.toNat < 0x110000) ∧ (String.utf8EncodeChar c).map UInt8.toNat =
      [c.toNat / 262144 + 240, c.toNat / 4096 % 64 + 128, c.toNat / 64 % 64 + 128,
        c.toNat % 64 + 128]) := by
  have bound : c.toNat < 0x110000 := by
    have valid : c.toNat.isValidChar := c.valid
    rcases valid with low | ⟨_, high⟩ <;> omega
  simp only [String.utf8EncodeChar, ← Char.toNat.eq_def]
  split
  · refine .inl ⟨by omega, ?_⟩
    simp
    omega
  split
  · refine .inr (.inl ⟨by omega, ?_⟩)
    simp
    omega
  split
  · refine .inr (.inr (.inl ⟨by omega, ?_⟩))
    simp
    omega
  · refine .inr (.inr (.inr ⟨by omega, ?_⟩))
    simp
    omega

/-- The bytes of a character come before those of a later one, whatever follows them. -/
theorem compareLists_utf8_of_lt {c d : Char} (less : c.toNat < d.toNat) (left right : List Nat) :
    Cell.compareLists ((String.utf8EncodeChar c).map UInt8.toNat ++ left)
      ((String.utf8EncodeChar d).map UInt8.toNat ++ right) = .lt := by
  -- a longer sequence has the greater first byte, and sequences of one length are digits to base 64
  rcases utf8_cases c with ⟨c1, bytes⟩ | ⟨c1, bytes⟩ | ⟨c1, bytes⟩ | ⟨c1, bytes⟩ <;>
    rcases utf8_cases d with ⟨d1, bytes'⟩ | ⟨d1, bytes'⟩ | ⟨d1, bytes'⟩ | ⟨d1, bytes'⟩ <;>
    first
    | omega
    | rw [bytes, bytes']
      exact Cell.compareLists_cons_of_lt (by omega) _ _
    | rw [bytes, bytes']
      refine Cell.compareLists_append_of_lt (by rfl) ?_ left right
      simp only [Cell.compareLists, Ordering.then_eq_lt, Nat.compare_eq_lt, Nat.compare_eq_eq]
      omega

/-- The bytes of two texts are ordered as their code points. -/
theorem compareLists_utf8 (left right : List Char) :
    Cell.compareLists ((left.flatMap String.utf8EncodeChar).map UInt8.toNat)
      ((right.flatMap String.utf8EncodeChar).map UInt8.toNat) = codeOrder left right := by
  have starts (c : Char) : ∃ byte rest, String.utf8EncodeChar c = byte :: rest :=
    List.exists_cons_of_ne_nil String.utf8EncodeChar_ne_nil
  induction left generalizing right with
  | nil =>
    cases right with
    | nil => rfl
    | cons d right =>
      obtain ⟨byte, rest, bytes⟩ := starts d
      rw [List.flatMap_cons, bytes]
      rfl
  | cons c left ih =>
    cases right with
    | nil =>
      obtain ⟨byte, rest, bytes⟩ := starts c
      rw [List.flatMap_cons, bytes]
      rfl
    | cons d right =>
      simp only [List.flatMap_cons, List.map_append, codeOrder_cons]
      rcases Nat.lt_trichotomy c.toNat d.toNat with less | same | greater
      · rw [compareLists_utf8_of_lt less, Nat.compare_eq_lt.2 less]
        rfl
      · cases Char.toNat_inj.1 same
        rw [Cell.compareLists_append_left, ih, Std.compare_self, Ordering.eq_then]
      · rw [← Cell.compareLists_swap, compareLists_utf8_of_lt greater, Nat.compare_eq_gt.2 greater]
        rfl

/-- The bytes of a text in UTF-8. -/
def utf8 (text : String) : List UInt8 := text.toUTF8.data.toList

theorem utf8_eq_flatMap (text : String) : utf8 text = text.toList.flatMap String.utf8EncodeChar := by
  have written := String.toByteArray_ofList (l := text.toList)
  rw [String.ofList_toList] at written
  rw [utf8, String.toUTF8_eq_toByteArray, written]
  exact List.toList_data_toByteArray

theorem bytes_lt_iff (left right : List UInt8) :
    left < right ↔ Cell.compareLists (left.map UInt8.toNat) (right.map UInt8.toNat) = .lt := by
  induction left generalizing right with
  | nil => cases right <;> simp [Cell.compareLists]
  | cons a left ih =>
    cases right with
    | nil => simp [Cell.compareLists]
    | cons b right =>
      rw [List.cons_lt_cons_iff, List.map_cons, List.map_cons, Cell.compareLists, Ordering.then_eq_lt,
        Nat.compare_eq_lt, Nat.compare_eq_eq, UInt8.lt_iff_toNat_lt, UInt8.toNat_inj, ih]

/-- Texts are ordered by their bytes in UTF-8 as they are by their code points. -/
theorem utf8_lt_iff (left right : String) :
    utf8 left < utf8 right ↔ codeOrder left.toList right.toList = .lt := by
  rw [bytes_lt_iff, utf8_eq_flatMap, utf8_eq_flatMap, compareLists_utf8]

/-- Texts have the same bytes in UTF-8 exactly if they have the same code points. -/
theorem utf8_eq_iff (left right : String) :
    utf8 left = utf8 right ↔ codeOrder left.toList right.toList = .eq := by
  rw [← compareLists_utf8, Cell.compareLists_eq_iff, ← utf8_eq_flatMap, ← utf8_eq_flatMap,
    List.map_inj_right fun _ _ => UInt8.toNat_inj.1]

end Text

end RecordStore
