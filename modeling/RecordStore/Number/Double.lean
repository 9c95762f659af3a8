/-!
# Double-precision numbers

A double is an IEEE 754 number of 64 bits: a finite number, an infinity, or the one NaN (payloads are
not told apart). Finite magnitudes are whole multiples of the unit `2 ^ -1074`, so every statement
about their values is one about natural numbers.
-/

namespace RecordStore

/-- The number of fractions at one scale, `2 ^ 52`. -/
abbrev fractionCount : Nat := 4503599627370496

/-- A finite double. Its magnitude is `fraction` units at scale 0, and `fractionCount + fraction`
times `2 ^ (scale - 1)` units above. -/
structure FiniteDouble where
  negative : Bool
  scale : Fin 2047
  fraction : Fin fractionCount
  deriving DecidableEq, Repr

/-- A double of any kind. -/
inductive Double where
  | finite (value : FiniteDouble)
  | infinite (negative : Bool)
  | nan
  deriving DecidableEq, Repr

/-- The number of units in one. -/
def unitsPerOne : Nat := Nat.pow 2 1074

namespace FiniteDouble

/-- The magnitude in units of `2 ^ -1074`. -/
def units (x : FiniteDouble) : Nat :=
  if x.scale.val = 0 then x.fraction.val
  else (fractionCount + x.fraction.val) * Nat.pow 2 (x.scale.val - 1)

/-- The distance to the next larger magnitude, in units. -/
def gap (x : FiniteDouble) : Nat := Nat.pow 2 (x.scale.val - 1)

/-- The distance to the next smaller magnitude, in units: half of `gap` where the scale changes. -/
def gapBelow (x : FiniteDouble) : Nat :=
  if x.fraction.val = 0 then Nat.pow 2 (x.scale.val - 2) else x.gap

/-- Whether the significand is even, which decides ties between this double and a neighbour. -/
def isEven (x : FiniteDouble) : Bool := x.fraction.val % 2 == 0

/-- Whether the value is zero, of either sign. -/
def isZero (x : FiniteDouble) : Bool := x.units == 0

/-- Whether the value is a whole number. -/
def isWhole (x : FiniteDouble) : Bool := x.units % unitsPerOne == 0

/-- The value cut off toward zero. -/
def truncate (x : FiniteDouble) : Int :=
  let whole : Int := (x.units / unitsPerOne : Nat)
  if x.negative then -whole else whole

/-- The signed value in units of `2 ^ -1074`. -/
def signedUnits (x : FiniteDouble) : Int := if x.negative then -x.units else x.units

/-- Zero with a sign. -/
def zero (negative : Bool) : FiniteDouble := ⟨negative, 0, 0⟩

end FiniteDouble

/-! ## Rounding -/

/-- The whole number nearest to a quotient, an exact half going to the even neighbour. -/
def roundHalfEven (numerator denominator : Nat) : Nat :=
  let floor := numerator / denominator
  let rest := numerator % denominator
  if 2 * rest < denominator then floor
  else if denominator < 2 * rest then floor + 1
  else if floor % 2 = 0 then floor else floor + 1

namespace Double

/-- The double whose magnitude stands at a place in the order of magnitudes; places beyond the
largest finite one are infinite. -/
def ofOrdinal (negative : Bool) (ordinal : Nat) : Double :=
  if h : ordinal / fractionCount < 2047 then
    .finite ⟨negative, ⟨ordinal / fractionCount, h⟩,
      ⟨ordinal % fractionCount, Nat.mod_lt _ (by decide)⟩⟩
  else .infinite negative

/-- The double nearest to a quotient of natural numbers, an exact half going to the double with an
even significand. Quotients of `2 ^ 1024` less half a gap and more are infinite. -/
def ofRatio (negative : Bool) (numerator denominator : Nat) : Double :=
  let scaled := numerator * unitsPerOne
  let shift := (scaled / denominator).log2 - 52
  ofOrdinal negative
    (shift * fractionCount + roundHalfEven scaled (denominator * Nat.pow 2 shift))

/-- The double nearest to an integer. -/
def ofInt (n : Int) : Double := ofRatio (n < 0) n.natAbs 1

/-- The double nearest to `significand * 10 ^ exponent`. Exponents that make the value larger than
every double or smaller than half a unit are settled without the power. -/
def ofDecimal (negative : Bool) (significand : Nat) (exponent : Int) : Double :=
  let leading := ((Nat.toDigits 10 significand).length : Int) + exponent
  if significand = 0 ∨ leading < -330 then .finite (.zero negative)
  else if 310 < leading then .infinite negative
  else if 0 ≤ exponent then ofRatio negative (significand * Nat.pow 10 exponent.toNat) 1
  else ofRatio negative significand (Nat.pow 10 (-exponent).toNat)

/-- The finite double, if it is one. -/
def finite? : Double → Option FiniteDouble
  | finite x => some x
  | _ => none

/-! ## Bits -/

/-- The bit of the sign, `2 ^ 63`. -/
abbrev signBit : Nat := 9223372036854775808

/-- The double with the given bit pattern; every NaN pattern is the one NaN. -/
def ofBits (bits : Nat) : Double :=
  let negative := bits / signBit % 2 == 1
  let ordinal := bits % signBit
  if 2047 * fractionCount < ordinal then .nan else ofOrdinal negative ordinal

/-- The bit pattern of a double; NaN has the positive quiet pattern without payload. -/
def toBits : Double → Nat
  | finite x => (if x.negative then signBit else 0) + x.scale.val * fractionCount + x.fraction.val
  | infinite negative => (if negative then signBit else 0) + 2047 * fractionCount
  | nan => 2047 * fractionCount + fractionCount / 2

/-! ## Arithmetic -/

/-- The product of two finite doubles, rounded. -/
def mul (x y : FiniteDouble) : Double :=
  ofRatio (x.negative != y.negative) (x.units * y.units) (unitsPerOne * unitsPerOne)

/-- The quotient of two finite doubles, rounded; the divisor is not zero. -/
def div (x y : FiniteDouble) : Double :=
  ofRatio (x.negative != y.negative) x.units y.units

end Double

/-- The unit of magnitude, one gap above zero. -/
theorem FiniteDouble.units_zero (negative : Bool) : (FiniteDouble.zero negative).units = 0 := rfl

end RecordStore
