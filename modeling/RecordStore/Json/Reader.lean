import RecordStore.Json.Basic
import RecordStore.Number.Reader

/-!
# Reading JSON text

A strict reader: one value with blanks around it and nothing else. Arrays and objects nest up to a
given depth. Each reader takes the text before it and answers the value together with the rest of
the text, or nothing when the text does not start with such a value.
-/

namespace RecordStore.Json

open Text

/-- The deepest nesting of arrays and objects that is read from stored text. -/
def maxDepth : Nat := 127

/-- A blank of JSON text. -/
def isJsonBlank (c : Char) : Bool := c == ' ' || c == '\t' || c == '\n' || c == '\r'

/-- The text from its first character that is not blank. -/
def skipBlank (text : List Char) : List Char := text.dropWhile isJsonBlank

/-! ## Strings -/

/-- The code unit that four hexadecimal digits write. -/
def codeUnit? (a b c d : Char) : Option Nat := hexadecimal? [a, b, c, d]

/-- The character of an escape with one letter. -/
def shortEscape? : Char → Option Char
  | '"' => some '"'
  | '\\' => some '\\'
  | '/' => some '/'
  | 'b' => some '\x08'
  | 'f' => some '\x0c'
  | 'n' => some '\n'
  | 'r' => some '\r'
  | 't' => some '\t'
  | _ => none

/-- Whether a code unit is the first of a surrogate pair. -/
def isHighSurrogate (unit : Nat) : Bool := 0xd800 ≤ unit && unit ≤ 0xdbff

/-- Whether a code unit is the second of a surrogate pair. -/
def isLowSurrogate (unit : Nat) : Bool := 0xdc00 ≤ unit && unit ≤ 0xdfff

/-- The character of a surrogate pair. -/
def pairedChar (high low : Nat) : Char :=
  Char.ofNat (0x10000 + (high - 0xd800) * 0x400 + (low - 0xdc00))

/-- Reads a string up to its closing quote, the opening one having been read. A surrogate is accepted
only as half of a pair. -/
def stringBody : List Char → Option (List Char × List Char)
  | [] => none
  | '"' :: rest => some ([], rest)
  | '\\' :: 'u' :: a :: b :: c :: d :: rest => do
    let unit ← codeUnit? a b c d
    if isLowSurrogate unit then none
    else if isHighSurrogate unit then
      match rest with
      | '\\' :: 'u' :: e :: f :: g :: h :: rest => do
        let second ← codeUnit? e f g h
        if isLowSurrogate second then
          let (body, rest) ← stringBody rest
          return (pairedChar unit second :: body, rest)
        else none
      | _ => none
    else
      let (body, rest) ← stringBody rest
      return (Char.ofNat unit :: body, rest)
  | '\\' :: letter :: rest => do
    let c ← shortEscape? letter
    let (body, rest) ← stringBody rest
    return (c :: body, rest)
  | c :: rest =>
    if c.toNat < 0x20 then none
    else do
      let (body, rest) ← stringBody rest
      return (c :: body, rest)

/-- Reads a string. -/
def readString : List Char → Option (String × List Char)
  | '"' :: rest => do
    let (body, rest) ← stringBody rest
    return (String.ofList body, rest)
  | _ => none

/-! ## Numbers -/

/-- The number of an integer literal: an integer where it fits a signed or unsigned word, and a
double otherwise. Minus zero is a double. -/
def integerLiteral? (negative : Bool) (run : List Char) : Option JsonNumber :=
  let value : Int := if negative then -(ofDigits run : Int) else ofDigits run
  if h : (-9223372036854775808 ≤ value ∧ value < 18446744073709551616) ∧
      ¬(negative ∧ value = 0) then
    some (.integer value h.1)
  else (Double.ofLiteral? ⟨run, [], 0⟩).map fun x => .double { x with negative }

/-- Reads the digits of a whole part, which starts with zero only if it is zero. -/
def wholePart? (text : List Char) : Option (List Char × List Char) :=
  match leadingDigits text with
  | [] => none
  | ['0'] => some (['0'], afterDigits text)
  | '0' :: _ => none
  | run => some (run, afterDigits text)

/-- Reads a point and at least one digit, if a point comes next. -/
def fractionPart? : List Char → Option (Option (List Char) × List Char)
  | '.' :: rest =>
    if (leadingDigits rest).isEmpty then none
    else some (some (leadingDigits rest), afterDigits rest)
  | text => some (none, text)

/-- Reads an exponent after its mark: an optional sign and at least one digit. -/
def signedExponent? (text : List Char) : Option (Int × List Char) :=
  let (negative, text) := match text with
    | '-' :: rest => (true, rest)
    | '+' :: rest => (false, rest)
    | rest => (false, rest)
  let run := leadingDigits text
  if run.isEmpty then none
  else some (if negative then -(ofDigits run : Int) else ofDigits run, afterDigits text)

/-- Reads an exponent, if its mark comes next. -/
def exponentPart? : List Char → Option (Option Int × List Char)
  | 'e' :: rest => (signedExponent? rest).map fun (exponent, rest) => (some exponent, rest)
  | 'E' :: rest => (signedExponent? rest).map fun (exponent, rest) => (some exponent, rest)
  | text => some (none, text)

/-- Reads a number without its sign. -/
def unsignedNumber? (negative : Bool) (text : List Char) : Option (JsonNumber × List Char) := do
  let (whole, rest) ← wholePart? text
  let (fraction, rest) ← fractionPart? rest
  let (exponent, rest) ← exponentPart? rest
  match fraction, exponent with
  | none, none => return (← integerLiteral? negative whole, rest)
  | fraction, exponent =>
    let x ← Double.ofLiteral? ⟨whole, fraction.getD [], exponent.getD 0⟩
    return (.double { x with negative }, rest)

/-- Reads a number. -/
def readNumber : List Char → Option (JsonNumber × List Char)
  | '-' :: rest => unsignedNumber? true rest
  | text => unsignedNumber? false text

/-! ## Values -/

/-- Reads a value that is no array and no object. -/
def readScalar : List Char → Option (Json × List Char)
  | 'n' :: 'u' :: 'l' :: 'l' :: rest => some (.null, rest)
  | 't' :: 'r' :: 'u' :: 'e' :: rest => some (.bool true, rest)
  | 'f' :: 'a' :: 'l' :: 's' :: 'e' :: rest => some (.bool false, rest)
  | '"' :: rest => (readString ('"' :: rest)).map fun (value, rest) => (.string value, rest)
  | text => (readNumber text).map fun (value, rest) => (.number value, rest)

section Sequences

variable {α : Type}

/-- Reads elements separated by commas up to a closing character, with blanks between them. There are
at least one and at most `limit` of them. -/
def readElements (element : List Char → Option (α × List Char)) (close : Char) :
    (limit : Nat) → List Char → Option (List α × List Char)
  | 0, _ => none
  | limit + 1, text => do
    let (first, rest) ← element text
    match skipBlank rest with
    | ',' :: rest =>
      let (others, rest) ← readElements element close limit rest
      return (first :: others, rest)
    | c :: rest => if c = close then some ([first], rest) else none
    | [] => none

/-- Reads the elements after an opening character, of which there may be none. A text has no more
elements than characters. -/
def readSequence (element : List Char → Option (α × List Char)) (close : Char)
    (text : List Char) : Option (List α × List Char) :=
  match skipBlank text with
  | [] => none
  | c :: rest =>
    if c = close then some ([], rest) else readElements element close text.length (c :: rest)

/-- Reads a field of an object: its name, a colon and its value. -/
def readField (value : List Char → Option (α × List Char)) (text : List Char) :
    Option ((String × α) × List Char) := do
  let (name, rest) ← readString (skipBlank text)
  match skipBlank rest with
  | ':' :: rest =>
    let (field, rest) ← value rest
    return ((name, field), rest)
  | _ => none

end Sequences

/-- Reads a value after blanks, in which arrays and objects nest at most `depth` deep. -/
def readValue : (depth : Nat) → List Char → Option (Json × List Char)
  | 0, text => readScalar (skipBlank text)
  | depth + 1, text =>
    match skipBlank text with
    | '[' :: rest =>
      (readSequence (readValue depth) ']' rest).map fun (items, rest) => (.array items, rest)
    | '{' :: rest =>
      (readSequence (readField (readValue depth)) '}' rest).map fun (fields, rest) =>
        (ofFields fields, rest)
    | text => readScalar text

/-- Reads a whole text as one value that nests at most `depth` deep. -/
def readDocument (depth : Nat) (text : List Char) : Option Json := do
  let (value, rest) ← readValue depth text
  if (skipBlank rest).isEmpty then some value else none

/-- Reads stored text as one value. -/
def ofText? (text : String) : Option Json := readDocument maxDepth text.toList

end RecordStore.Json
