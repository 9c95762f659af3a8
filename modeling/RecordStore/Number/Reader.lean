import RecordStore.Number.Double
import RecordStore.Text.Digits

/-!
# Reading doubles

Two readers of decimal text. `Double.ofText?` rounds the value of the whole text to the nearest
double. `Double.ofLiteral?` takes the digits that fit 64 bits as the significand, rounds it, and
applies the power of ten as one rounded multiplication or division, so its result may lie one gap
from the nearest double.
-/

namespace RecordStore

open Text

/-- The parts of a decimal text without sign: the digits before and after the point and the
exponent. -/
structure DecimalText where
  whole : List Char
  fraction : List Char
  exponent : Int

namespace Double

/-- An exponent after its mark: an optional sign and digits, and nothing else. -/
def exponent? : List Char → Option Int
  | '-' :: rest => (natural? rest).map fun n => -(n : Int)
  | '+' :: rest => (natural? rest).map (↑·)
  | rest => (natural? rest).map (↑·)

/-- The parts of digits with an optional point and exponent, at least one digit standing before or
after the point. -/
def decimalText? (text : List Char) : Option DecimalText := do
  let whole := leadingDigits text
  let (fraction, rest) := match afterDigits text with
    | '.' :: rest => (leadingDigits rest, afterDigits rest)
    | rest => ([], rest)
  if whole.isEmpty && fraction.isEmpty then none
  match rest with
  | [] => some ⟨whole, fraction, 0⟩
  | mark :: rest =>
    if mark = 'e' ∨ mark = 'E' then return ⟨whole, fraction, ← exponent? rest⟩ else none

/-- A text without sign as a double: the words for infinity and NaN in any case, or a decimal. -/
def unsigned? (negative : Bool) (text : List Char) : Option Double :=
  match String.ofList (text.map Char.toLower) with
  | "inf" | "infinity" => some (.infinite negative)
  | "nan" => some .nan
  | _ => (decimalText? text).map fun d =>
    ofDecimal negative (ofDigits (d.whole ++ d.fraction)) (d.exponent - d.fraction.length)

/-- The double nearest to the value that a text writes, with an optional sign in front. -/
def ofText? : List Char → Option Double
  | '-' :: rest => unsigned? true rest
  | '+' :: rest => unsigned? false rest
  | rest => unsigned? false rest

/-! ## Literals of limited precision -/

/-- Takes digits into a significand as long as it stays below `2 ^ 64`; the digits left over begin
with the first that does not fit. -/
def absorb (significand : Nat) : List Char → Nat × List Char
  | [] => (significand, [])
  | d :: rest =>
    let next := significand * 10 + (d.toNat - '0'.toNat)
    if next < UInt64.size then absorb next rest else (significand, d :: rest)

/-- The power of ten with a given exponent, rounded. -/
def powerOfTen (exponent : Nat) : Double := ofRatio false (Nat.pow 10 exponent) 1

/-- A significand times a power of ten, each rounded first. Powers beyond `10 ^ 308` are split for
small values and refused for large ones, and so is an infinite result. -/
def scaleByTen? (significand : Nat) (exponent : Int) : Option FiniteDouble := do
  let start ← (ofRatio false significand 1).finite?
  let divide (x : FiniteDouble) (places : Nat) : Option FiniteDouble := do
    (div x (← (powerOfTen places).finite?)).finite?
  if start.isZero then some start
  else if 308 < exponent then none
  else if 0 ≤ exponent then (mul start (← (powerOfTen exponent.toNat).finite?)).finite?
  else if -308 ≤ exponent then divide start (-exponent).toNat
  else if -616 ≤ exponent then divide (← divide start 308) (-exponent - 308).toNat
  else some (.zero false)

/-- The value of a literal by the rule of limited precision, without its sign. -/
def ofLiteral? (literal : DecimalText) : Option FiniteDouble :=
  let (whole, wholeLeft) := absorb 0 literal.whole
  let (significand, fractionLeft) := absorb whole literal.fraction
  scaleByTen? significand
    (literal.exponent + wholeLeft.length - (literal.fraction.length - fractionLeft.length : Nat))

end Double

end RecordStore
