import RecordStore.Codec.Basic
import RecordStore.Json.Reader
import RecordStore.Text.Utf8
import RecordStore.Time.Reader

/-!
# Codecs of truth values, dates and structures

Truth values are read from any stored value by whether it is empty. Dates are stored as instants and
read back in one normal form. Objects and arrays are stored as their text. The best guess stands in
for a type without a codec: it infers the value from the kind of the stored one.
-/

namespace RecordStore

/-! ## Truth values -/

/-- Whether a JSON number is zero. -/
def JsonNumber.isZero : JsonNumber → Bool
  | integer value _ => value == 0
  | double value => value.isZero

/-- Whether a JSON value counts as true: it is there, and neither zero nor empty text. -/
def Json.isTruthy : Json → Bool
  | null => false
  | bool value => value
  | number value => !value.isZero
  | string value => value != ""
  | array _ => true
  | object _ => true

/-- Whether a stored value counts as true; NaN does not. -/
def StoredValue.isTruthy : StoredValue → Bool
  | null => false
  | bool value => value
  | integer value => value != 0
  | double (.finite x) => !x.isZero
  | double (.infinite _) => true
  | double .nan => false
  | string value => value != ""
  | bytes _ => true
  | uuid _ => true
  | instant _ => true
  | date _ => true
  | json value => value.isTruthy

/-! ## Dates -/

/-- The instant that a stored value tells: itself, the midnight of a date, a timestamp in text, or a
number of milliseconds. -/
def StoredValue.instant? : StoredValue → Option Instant
  | instant value => some value
  | date value => some (.midnight value)
  | string text => Instant.ofStored? text
  | json (.string text) => Instant.ofStored? text
  | integer millis => Instant.ofMillis? millis.toInt
  | _ => none

namespace Codec

/-- The codec of truth values. -/
def boolean : Codec where
  name := "BooleanCodec"
  encode := encodeByKind
  decodePresent value := .ok (.bool value.isTruthy)

/-- The codec of dates. Text that is no timestamp is stored as it is. -/
def date : Codec where
  name := "DateCodec"
  encode
    | .string text =>
      match Instant.ofStored? text with
      | some instant => .instant instant
      | none => .string text
    | other => encodeByKind other
  decodePresent value :=
    match value.instant? with
    | some instant => .ok (.string instant.toIsoText)
    | none => .error (.decode .date value)

/-! ## Objects and arrays -/

/-- The codec of objects and arrays. -/
def json : Codec where
  name := "JsonCodec"
  encode := encodeByKind
  decodePresent value :=
    let document : Option Json := match value with
      | .string text => Json.ofText? text
      | .bytes bytes => (Text.Utf8.decode? bytes).bind (Json.readDocument Json.maxDepth)
      | other => some other.toJson
    match document with
    | some json => .ok json
    | none => .error (.decode .json value)

/-! ## Types without a codec -/

/-- The codec that guesses: text that is JSON is read as such, and bytes have no type to guess. -/
def bestGuess : Codec where
  name := "BestGuessCodec"
  encode := encodeByKind
  decodePresent value :=
    match value with
    | .string text => .ok ((Json.ofText? text).getD (.string text))
    | .double .nan => .error (.typeResolution value)
    | .double (.infinite _) => .error (.typeResolution value)
    | .bytes _ => .error (.typeResolution value)
    | .null => .error (.typeResolution value)
    | other => .ok other.toJson

end Codec

end RecordStore
