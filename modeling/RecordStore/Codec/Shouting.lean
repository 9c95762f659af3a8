import RecordStore.Codec.Basic
import RecordStore.Text.Case

/-!
# A codec that changes case

A codec beside the built-in ones, for a registry of one's own: text is stored in lower case and read
in upper case. Unlike the built-in codecs it stores text for every value, null included.
-/

namespace RecordStore

/-- The codec that stores text in lower case and reads it in upper case. -/
def Codec.shouting : Codec where
  name := "ShoutingCodec"
  encode
    | .string text => .string (String.ofList (Text.lowerText text.toList))
    | other => .string other.toText
  decodePresent
    | .string text => .ok (.string (String.ofList (Text.upperText text.toList)))
    | other => .ok other.toJson

end RecordStore
