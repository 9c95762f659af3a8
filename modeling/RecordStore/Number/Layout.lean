import RecordStore.Number.Shortest
import RecordStore.Text.Digits

/-!
# Layouts of doubles

How the shortest digits of a double are laid out: positionally while the exponent of the leading
digit lies in a range, and with an exponent outside of it.
-/

namespace RecordStore

/-- The decisions of one way to write a double. -/
structure DoubleLayout where
  /-- The least exponent of the leading digit that is written positionally. -/
  least : Int
  /-- The greatest exponent of the leading digit that is written positionally. -/
  greatest : Int
  /-- Whether a whole number in positional form ends in `.0`. -/
  keepsPoint : Bool
  /-- Whether an exponent that is not negative has a plus sign. -/
  plusSign : Bool
  /-- Which of two equally near shortest decimals is written. -/
  tie : DecimalTie

namespace DoubleLayout

open Text

/-- Digits with a point after the place of exponent zero. -/
def positional (layout : DoubleLayout) (run : List Char) (leading : Int) : List Char :=
  if 0 ≤ leading then
    let places := leading.toNat + 1
    let whole := run.take places ++ List.replicate (places - run.length) '0'
    match run.drop places with
    | [] => if layout.keepsPoint then whole ++ ['.', '0'] else whole
    | fraction => whole ++ '.' :: fraction
  else ['0', '.'] ++ List.replicate ((-leading).toNat - 1) '0' ++ run

/-- Digits with a point after the first and an exponent. -/
def scientific (layout : DoubleLayout) (run : List Char) (leading : Int) : List Char :=
  let mantissa := match run with
    | first :: second :: rest => first :: '.' :: second :: rest
    | short => short
  let sign := if leading < 0 then ['-'] else if layout.plusSign then ['+'] else []
  mantissa ++ 'e' :: sign ++ digits leading.natAbs

/-- The text of a finite double. -/
def finite (layout : DoubleLayout) (x : FiniteDouble) : List Char :=
  let decimal := x.shortest layout.tie
  let run := digits decimal.significand
  let leading := decimal.exponent + run.length - 1
  let magnitude :=
    if layout.least ≤ leading ∧ leading ≤ layout.greatest then layout.positional run leading
    else layout.scientific run leading
  if x.negative then '-' :: magnitude else magnitude

end DoubleLayout

end RecordStore
