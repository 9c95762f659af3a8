import RecordStore.Codec.Basic
import RecordStore.Number.Reader
import RecordStore.Text.Blank
import RecordStore.Text.Utf8

/-!
# Codecs of text and numbers

Unique ids, text, references and email are text in the store whatever they were stored as. Integers
and numbers are read from any stored value that writes one: integers from the leading integer of a
text, numbers from a text that is a number throughout.
-/

namespace RecordStore

open Text

/-! ## Text -/

/-- Doubles in text: always positional, whole numbers without a point. -/
def plainDouble : DoubleLayout := ⟨-400, 400, false, false, .up⟩

/-- The largest number up to which every whole double tells its neighbours apart, `2 ^ 53 - 1`. -/
def maxSafeInteger : Nat := 9007199254740991

/-- Whether a double is a whole number that a double tells from its neighbours. -/
def FiniteDouble.isSafeInteger (x : FiniteDouble) : Bool :=
  x.isWhole && x.units ≤ maxSafeInteger * unitsPerOne

/-- The text of a double: digits without exponent, and words for what is not finite. -/
def Double.plainText : Double → List Char
  | nan => "NaN".toList
  | infinite negative => if negative then "-Infinity".toList else "Infinity".toList
  | finite x =>
    if x.isSafeInteger then
      let whole := digits x.truncate.natAbs
      if x.negative then '-' :: whole else whole
    else plainDouble.finite x

/-- A stored value as text. -/
def StoredValue.plainText : StoredValue → String
  | null => "null"
  | bool value => if value then "true" else "false"
  | integer value => String.ofList (signedDigits value.toInt)
  | double value => String.ofList value.plainText
  | string value => value
  | bytes value => String.ofList (Utf8.decodeLenient value)
  | uuid value => value.toText
  | instant value => value.toIsoText
  | date value => value.toText
  | json (.string value) => value
  | json value => value.toText

/-! ## Integers -/

/-- The integer that a text begins with after blanks: an optional sign and digits. None if there are
no digits or their number is beyond a signed word; what follows them does not matter. -/
def leadingInteger? (text : String) : Option Int64 :=
  let (negative, rest) := match trimStart text.toList with
    | '-' :: rest => (true, rest)
    | '+' :: rest => (false, rest)
    | rest => (false, rest)
  let run := leadingDigits rest
  if run.isEmpty || 9223372036854775808 ≤ ofDigits run then none
  else some (Int64.ofInt (if negative then -(ofDigits run : Int) else ofDigits run))

/-- The double cut off toward zero and put into the range of a signed word. -/
def FiniteDouble.clampedInteger (x : FiniteDouble) : Int64 := Int64.ofIntClamp x.truncate

/-- The integer of a JSON number; a double and an integer beyond a signed word are cut off and put
into its range. -/
def JsonNumber.clampedInteger (number : JsonNumber) : Option Int64 :=
  number.int64?.or (number.toDouble.finite?.map FiniteDouble.clampedInteger)

/-- The integer that a stored value writes. -/
def StoredValue.integer? : StoredValue → Option Int64
  | integer value => some value
  | double (.finite x) => some x.clampedInteger
  | string text => leadingInteger? text
  | json (.number number) => number.clampedInteger
  | json (.string text) => leadingInteger? text
  | _ => none

/-! ## Numbers -/

/-- The JSON number of a double: an integer where every double tells it from its neighbours. -/
def FiniteDouble.toJson (x : FiniteDouble) : Json :=
  if x.isSafeInteger then .number (.ofInt64 x.clampedInteger) else .number (.double x)

/-- The double that a stored value writes, an integer apart. -/
def StoredValue.double? : StoredValue → Option Double
  | double value => some value
  | string text => Double.ofText? (trim text.toList)
  | json (.number number) => some number.toDouble
  | json (.string text) => Double.ofText? (trim text.toList)
  | _ => none

/-- The JSON number that a stored value writes. -/
def StoredValue.number? : StoredValue → Option Json
  | integer value => some (.number (.ofInt64 value))
  | value => (value.double?.bind Double.finite?).map FiniteDouble.toJson

namespace Codec

/-- The codec of text. -/
def text : Codec where
  name := "StringCodec"
  encode := encodeByKind
  decodePresent value := .ok (.string value.plainText)

/-- The codec of integers. -/
def integer : Codec where
  name := "IntegerCodec"
  encode := encodeByKind
  decodePresent value :=
    match value.integer? with
    | some integer => .ok (.number (.ofInt64 integer))
    | none => .error (.decode .integer value)

/-- The codec of numbers. -/
def number : Codec where
  name := "NumberCodec"
  encode := encodeByKind
  decodePresent value :=
    match value.number? with
    | some number => .ok number
    | none => .error (.decode .number value)

end Codec

end RecordStore
