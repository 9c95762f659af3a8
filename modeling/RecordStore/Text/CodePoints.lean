/-!
# Sets of code points

A character property is a set of code points, written as a list of ranges, or of ranges that take
every second code point. The letters of many scripts alternate between upper and lower case, which
the second form states in one entry.
-/

namespace RecordStore.Text

/-- A set of code points, as ranges from a first to a last one, both included. -/
abbrev Ranges := List (Nat × Nat)

/-- Whether a character lies in one of the ranges. -/
def Ranges.contains (ranges : Ranges) (c : Char) : Bool :=
  ranges.any fun range => range.1 ≤ c.toNat && c.toNat ≤ range.2

/-- The code points `first`, `first + step`, and so on up to `last`. -/
structure Stride where
  first : Nat
  last : Nat
  step : Nat

/-- Whether a character is one of the code points of a stride. -/
def Stride.contains (stride : Stride) (c : Char) : Bool :=
  stride.first ≤ c.toNat && c.toNat ≤ stride.last && (c.toNat - stride.first) % stride.step == 0

/-- Whether a character lies in one of the strides. -/
def strideContains (strides : List Stride) (c : Char) : Bool :=
  strides.any (·.contains c)

/-- A stride of characters that all map to the code point equally far from `target`. -/
structure ShiftedStride extends Stride where
  target : Nat

/-- The image of a character of the stride. -/
def ShiftedStride.image (stride : ShiftedStride) (c : Char) : Char :=
  Char.ofNat (stride.target + (c.toNat - stride.first))

end RecordStore.Text
