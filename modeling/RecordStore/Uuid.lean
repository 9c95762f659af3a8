import RecordStore.Text.Digits

/-!
# UUIDs

A UUID is a number of 128 bits, written as 32 lower-case hexadecimal digits in groups of 8, 4, 4, 4
and 12 with dashes between them.
-/

namespace RecordStore

/-- A number of 128 bits. -/
structure Uuid where
  bits : BitVec 128
  deriving DecidableEq, Repr

namespace Uuid

/-- The 32 hexadecimal digits. -/
def hex (id : Uuid) : List Char :=
  let run := Text.hexDigits id.bits.toNat
  List.replicate (32 - run.length) '0' ++ run

/-- The digits in groups with dashes between them. -/
def toText (id : Uuid) : String :=
  let hex := id.hex
  String.ofList (hex.take 8 ++ '-' :: (hex.drop 8).take 4 ++ '-' :: (hex.drop 12).take 4
    ++ '-' :: (hex.drop 16).take 4 ++ '-' :: hex.drop 20)

/-- Reads 32 hexadecimal digits, skipping dashes. -/
def ofText? (text : String) : Option Uuid := do
  let run := text.toList.filter (· != '-')
  if run.length != 32 then none
  return ⟨BitVec.ofNat 128 (← Text.hexadecimal? run)⟩

end Uuid

end RecordStore
