import RecordStore.Json.Basic
import RecordStore.Number.Layout

/-!
# JSON text

A JSON value is written without spaces, its strings with the shortest escapes and its doubles with
the fewest digits that read back.
-/

namespace RecordStore

/-- Doubles in JSON text: positional from `0.00001` to sixteen whole digits, always with a point or
an exponent, so that they are told from integers. -/
def Json.doubleLayout : DoubleLayout := ⟨-5, 15, true, true, .even⟩

/-- The text of a number. -/
def JsonNumber.text : JsonNumber → List Char
  | integer value _ => Text.signedDigits value
  | double value => Json.doubleLayout.finite value

namespace Json

/-- One character inside a JSON string. Control characters below the space are escaped. -/
def escapedChar (c : Char) : List Char :=
  match c with
  | '"' => ['\\', '"']
  | '\\' => ['\\', '\\']
  | '\x08' => ['\\', 'b']
  | '\x0c' => ['\\', 'f']
  | '\n' => ['\\', 'n']
  | '\r' => ['\\', 'r']
  | '\t' => ['\\', 't']
  | c =>
    if c.toNat < 0x20 then
      ['\\', 'u', '0', '0'] ++ List.replicate (2 - (Text.hexDigits c.toNat).length) '0'
        ++ Text.hexDigits c.toNat
    else [c]

/-- A string in quotes. -/
def stringText (value : String) : List Char :=
  '"' :: value.toList.flatMap escapedChar ++ ['"']

mutual

/-- The text of a value. -/
def print : Json → List Char
  | .null => "null".toList
  | .bool value => if value then "true".toList else "false".toList
  | .number value => value.text
  | .string value => stringText value
  | .array [] => ['[', ']']
  | .array (first :: rest) => '[' :: print first ++ printItems rest
  | .object [] => ['{', '}']
  | .object ((name, value) :: rest) =>
    '{' :: stringText name ++ ':' :: print value ++ printFields rest

/-- The text of the items after the first, up to the end of the array. -/
def printItems : List Json → List Char
  | [] => [']']
  | item :: rest => ',' :: print item ++ printItems rest

/-- The text of the fields after the first, up to the end of the object. -/
def printFields : List (String × Json) → List Char
  | [] => ['}']
  | (name, value) :: rest => ',' :: stringText name ++ ':' :: print value ++ printFields rest

end

/-- The text of a value as a string. -/
def toText (json : Json) : String := String.ofList json.print

end Json

end RecordStore
