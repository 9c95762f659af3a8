import RecordStore.Codec.Structure
import RecordStore.Codec.Text

/-!
# Codec registries

A registry gives each property type a codec, and has a fallback for the types without one.
-/

namespace RecordStore

/-- The codecs of property types. -/
structure CodecRegistry where
  /-- The codec of each registered type. -/
  codecs : List (PropertyType × Codec)
  /-- The codec of every other type. -/
  fallback : Codec

namespace CodecRegistry

/-- The registry without codecs, which guesses the type of every value. -/
def empty : CodecRegistry := ⟨[], .bestGuess⟩

/-- The registry with the codec of one type set. -/
def register (registry : CodecRegistry) (type : PropertyType) (codec : Codec) : CodecRegistry :=
  { registry with codecs := (type, codec) :: registry.codecs.filter (·.1 ≠ type) }

/-- The registry with another fallback. -/
def withFallback (registry : CodecRegistry) (codec : Codec) : CodecRegistry :=
  { registry with fallback := codec }

/-- The registry of the built-in codecs. -/
def default : CodecRegistry :=
  { codecs :=
      [(.uniqueId, .text), (.modelReference, .text), (.text, .text), (.bigText, .text),
        (.email, .text), (.integer, .integer), (.number, .number), (.boolean, .boolean),
        (.date, .date), (.datetime, .date), (.object, .json), (.array, .json)]
    fallback := .bestGuess }

/-- Whether a type has a codec of its own. -/
def isRegistered (registry : CodecRegistry) (type : PropertyType) : Bool :=
  (registry.codecs.lookup type).isSome

/-- The codec of a type. -/
def codecFor (registry : CodecRegistry) (type : PropertyType) : Codec :=
  (registry.codecs.lookup type).getD registry.fallback

/-- The stored value of a value of a type. -/
def encode (registry : CodecRegistry) (type : PropertyType) (value : Json) : StoredValue :=
  (registry.codecFor type).encode value

/-- The value of a type that a stored value is read as. -/
def decode (registry : CodecRegistry) (type : PropertyType) (value : StoredValue) :
    Except Error Json :=
  (registry.codecFor type).decode value

/-- The names of the registered types in order, and the fallback. -/
def describe (registry : CodecRegistry) : String :=
  let names := (registry.codecs.map fun entry => entry.1.name).mergeSort
    fun left right => !Json.nameLt right left
  let types := String.ofList (listed (names.map Json.quotedText))
  "CodecRegistry \x7b types: [" ++ types ++ "], fallback: " ++ registry.fallback.name ++ " \x7d"

end CodecRegistry

end RecordStore
