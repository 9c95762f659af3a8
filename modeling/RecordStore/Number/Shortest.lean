import RecordStore.Number.Double

/-!
# Shortest decimals

A double is written with the fewest decimal digits that read back as the same double, and among those
with the digits nearest to its value. The reals that read back as a double are those closer to it
than to its neighbours, the two midpoints included when its significand is even.
-/

namespace RecordStore

/-- The number `significand * 10 ^ exponent`. -/
structure Decimal where
  significand : Nat
  exponent : Int
  deriving DecidableEq, Repr

/-- Which of two equally near decimals is taken: the one with an even last digit, or the larger. -/
inductive DecimalTie where
  | even
  | up
  deriving DecidableEq, Repr

/-- The decimal without trailing zeros in its significand. -/
def Decimal.strip (d : Decimal) : Decimal :=
  if h : d.significand ≠ 0 ∧ d.significand % 10 = 0 then
    Decimal.strip ⟨d.significand / 10, d.exponent + 1⟩
  else d
termination_by d.significand
decreasing_by exact Nat.div_lt_self (by omega) (by decide)

namespace FiniteDouble

/-- The exponent of the leading decimal digit of a value that is not zero. -/
def leadingExponent (x : FiniteDouble) : Int :=
  if unitsPerOne ≤ x.units then
    ((Nat.toDigits 10 (x.units / unitsPerOne)).length : Int) - 1
  else
    0 - ((Nat.toDigits 10 ((unitsPerOne - 1) / x.units)).length : Int)

/-- The value and the decimal grid `10 ^ exponent` over one common scale: what a quarter of a unit
and what one step of the grid come to. -/
def gridScale (exponent : Int) : Nat × Nat :=
  if 0 ≤ exponent then (1, 4 * unitsPerOne * Nat.pow 10 exponent.toNat)
  else (Nat.pow 10 (-exponent).toNat, 4 * unitsPerOne)

/-- The multiple of `10 ^ exponent` nearest to the value among those that read back as it. -/
def nearestOnGrid (tie : DecimalTie) (x : FiniteDouble) (exponent : Int) : Option Nat :=
  let (quarter, step) := gridScale exponent
  let value := 4 * x.units * quarter
  let least := value - 2 * x.gapBelow * quarter
  let greatest := value + 2 * x.gap * quarter
  let below := value / step
  let above := below + 1
  let belowReads := least < below * step || (x.isEven && least == below * step)
  let aboveReads := above * step < greatest || (x.isEven && above * step == greatest)
  if belowReads && aboveReads then
    let toBelow := value - below * step
    let toAbove := above * step - value
    if toBelow < toAbove then some below
    else if toAbove < toBelow then some above
    else match tie with
      | .even => some (if below % 2 = 0 then below else above)
      | .up => some above
  else if belowReads then some below
  else if aboveReads then some above
  else none

/-- The shortest decimal from a grid on, with at most `more` further digits. -/
def shortestFrom (tie : DecimalTie) (x : FiniteDouble) (exponent : Int) : Nat → Decimal
  | 0 => ⟨(nearestOnGrid tie x exponent).getD 0, exponent⟩
  | more + 1 =>
    match nearestOnGrid tie x exponent with
    | some significand => ⟨significand, exponent⟩
    | none => shortestFrom tie x (exponent - 1) more

/-- The shortest decimal of the magnitude; seventeen digits always read back. -/
def shortest (tie : DecimalTie) (x : FiniteDouble) : Decimal :=
  if x.isZero then ⟨0, 0⟩ else (shortestFrom tie x x.leadingExponent 16).strip

end FiniteDouble

end RecordStore
