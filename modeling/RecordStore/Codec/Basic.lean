import RecordStore.Error

/-!
# Codecs

A codec converts the values of a property to stored values and back. A stored null is read as null by
every codec, so a codec only says how it reads what is not null.
-/

namespace RecordStore

/-- A conversion between the values of a property and stored values. -/
structure Codec where
  /-- The name that a registry shows for the codec. -/
  name : String
  encode : Json → StoredValue
  /-- Reads a stored value that is not null. -/
  decodePresent : StoredValue → Except Error Json

namespace Codec

/-- Reads a stored value; null is null. -/
def decode (codec : Codec) (value : StoredValue) : Except Error Json :=
  if value.isNull then .ok .null else codec.decodePresent value

/-- The stored value of a JSON value where its kind alone decides: null, truth values, numbers and
strings are kept and arrays and objects become their text. An integer beyond a signed word becomes a
double. -/
def encodeByKind : Json → StoredValue
  | .null => .null
  | .bool value => .bool value
  | .number value =>
    match value.int64? with
    | some integer => .integer integer
    | none => .double value.toDouble
  | .string value => .string value
  | .array items => .string (Json.array items).toText
  | .object fields => .string (Json.object fields).toText

@[simp] theorem decode_null (codec : Codec) : codec.decode .null = .ok .null := rfl

end Codec

end RecordStore
