/-!
# Decimal digits

Writing and reading whole numbers. The digits of a number are `Nat.toDigits 10`, most significant
first, and `Nat.ofDigitChars 10` reads them back; this module adds sign, padding and the split of a
text after its longest run of digits.
-/

namespace RecordStore.Text

/-- The decimal digits of a number; zero has the one digit `0`. -/
def digits (n : Nat) : List Char := Nat.toDigits 10 n

/-- The decimal text of an integer, with a minus sign below zero and no sign otherwise. -/
def signedDigits (n : Int) : List Char :=
  if n < 0 then '-' :: digits n.natAbs else digits n.natAbs

/-- The digits of a number, filled up with leading zeros to at least `width` characters. -/
def paddedDigits (width n : Nat) : List Char :=
  List.replicate (width - (digits n).length) '0' ++ digits n

/-- The lower-case hexadecimal digits of a number. -/
def hexDigits (n : Nat) : List Char := Nat.toDigits 16 n

/-- The number that a run of decimal digits writes; the empty run is zero. -/
def ofDigits (run : List Char) : Nat := Nat.ofDigitChars 10 run 0

/-- The longest run of decimal digits at the front of a text. -/
def leadingDigits (text : List Char) : List Char := text.takeWhile Char.isDigit

/-- What follows the longest run of decimal digits. -/
def afterDigits (text : List Char) : List Char := text.dropWhile Char.isDigit

/-- The text read as one run of at least one digit, with nothing else in it. -/
def natural? (text : List Char) : Option Nat :=
  if text ≠ [] ∧ text.all Char.isDigit then some (ofDigits text) else none

/-- The text read as a number below `2 ^ 64`, with a plus sign in front or none. -/
def word? (text : List Char) : Option UInt64 :=
  let run := match text with
    | '+' :: rest => rest
    | rest => rest
  (natural? run).bind fun n => if n < UInt64.size then some (UInt64.ofNat n) else none

/-- The value of one hexadecimal digit in either case. -/
def hexValue? (c : Char) : Option Nat :=
  if c.isDigit then some (c.toNat - '0'.toNat)
  else if 'a' ≤ c ∧ c ≤ 'f' then some (c.toNat - 'a'.toNat + 10)
  else if 'A' ≤ c ∧ c ≤ 'F' then some (c.toNat - 'A'.toNat + 10)
  else none

/-- The text read as hexadecimal digits, most significant first; none if a character is not one. -/
def hexadecimal? (text : List Char) : Option Nat :=
  text.foldl (fun sum c => do return (← sum) * 16 + (← hexValue? c)) (some 0)

theorem leadingDigits_append_afterDigits (text : List Char) :
    leadingDigits text ++ afterDigits text = text :=
  List.takeWhile_append_dropWhile

theorem isDigit_of_mem_leadingDigits {text : List Char} {c : Char} (h : c ∈ leadingDigits text) :
    c.isDigit = true := by
  induction text with
  | nil => simp [leadingDigits] at h
  | cons d rest ih =>
    by_cases hd : d.isDigit
    · simp only [leadingDigits, List.takeWhile_cons, hd, if_true, List.mem_cons] at h
      rcases h with rfl | h
      · exact hd
      · exact ih h
    · simp [leadingDigits, hd] at h

/-- Reading the digits of a number gives the number. -/
theorem ofDigits_digits (n : Nat) : ofDigits (digits n) = n :=
  Nat.ofDigitChars_toDigits (by decide) (by decide)

theorem digits_ne_nil (n : Nat) : digits n ≠ [] := Nat.toDigits_ne_nil

theorem isDigit_of_mem_digits {n : Nat} {c : Char} (h : c ∈ digits n) : c.isDigit = true :=
  Nat.isDigit_of_mem_toDigits (by decide) (by decide) h

/-- The decimal text of a number reads as that number. -/
theorem natural?_digits (n : Nat) : natural? (digits n) = some n := by
  have all : (digits n).all Char.isDigit = true :=
    List.all_eq_true.2 fun _ h => isDigit_of_mem_digits h
  simp [natural?, digits_ne_nil, all, ofDigits_digits]

end RecordStore.Text
