import RecordStore.Proofs.Codec.RoundTrip
import RecordStore.Proofs.Json.Strings

/-!
# What guessing keeps

A type without a codec of its own is decoded by the kind of the stored value. Truth values, signed words,
and arrays and objects whose numbers are integers come back as they were. A string comes back unless it is
a JSON document, which it is then read as, and no document denotes its own text
(`CodecRegistry.decode_encode_guessed`).
-/

namespace RecordStore

namespace Codec

theorem decode_bestGuess_integer (value : Int64) :
    bestGuess.decode (bestGuess.encode (.number (.ofInt64 value))) = .ok (.number (.ofInt64 value)) := by
  have stored : bestGuess.encode (.number (.ofInt64 value)) = .integer value :=
    encodeByKind_ofInt64 value
  rw [stored]
  rfl

/-- Arrays and objects are read back from their text, which is a document. -/
theorem decode_bestGuess_structure {value : Json}
    (structured : (∃ items, value = .array items) ∨ ∃ fields, value = .object fields)
    (fits : value.Fits Json.maxDepth) :
    bestGuess.decode (bestGuess.encode value) = .ok value := by
  have stored : bestGuess.encode value = .string value.toText := by
    rcases structured with ⟨items, rfl⟩ | ⟨fields, rfl⟩ <;> rfl
  have read : bestGuess.decode (.string value.toText) =
      .ok ((Json.ofText? value.toText).getD (.string value.toText)) := rfl
  rw [stored, read, Json.ofText?_toText fits, Option.getD_some]

/-- A string is kept if it is no document, and read as what it denotes otherwise. -/
theorem decode_bestGuess_string (text : String) :
    bestGuess.decode (bestGuess.encode (.string text)) =
      .ok ((Json.ofText? text).getD (.string text)) := rfl

theorem decode_bestGuess_string_iff (text : String) :
    bestGuess.decode (bestGuess.encode (.string text)) = .ok (.string text) ↔
      Json.ofText? text = none := by
  rw [decode_bestGuess_string, Except.ok.injEq]
  cases read : Json.ofText? text with
  | none => exact iff_of_true rfl rfl
  | some document =>
    rw [Option.getD_some]
    refine iff_of_false ?_ nofun
    rintro rfl
    exact Json.ofText?_ne_string text read

end Codec

namespace CodecRegistry

theorem codecFor_of_not_registered {registry : CodecRegistry} {type : PropertyType}
    (unregistered : registry.isRegistered type = false) :
    registry.codecFor type = registry.fallback := by
  have absent : registry.codecs.lookup type = none := by
    rwa [isRegistered, Option.isSome_eq_false_iff, Option.isNone_iff_eq_none] at unregistered
  rw [codecFor, absent, Option.getD_none]

/-- Where the type is guessed, truth values, signed words, and arrays and objects with integers only that
are not nested too deep are decoded as they were encoded. A string is so exactly if it is no JSON document,
and it is decoded as the document otherwise. -/
theorem decode_encode_guessed {registry : CodecRegistry} {type : PropertyType}
    (unregistered : registry.isRegistered type = false) (guesses : registry.fallback = .bestGuess) :
    (∀ truth, registry.decode type (registry.encode type (.bool truth)) = .ok (.bool truth)) ∧
    (∀ integer : Int64, registry.decode type (registry.encode type (.number (.ofInt64 integer))) =
      .ok (.number (.ofInt64 integer))) ∧
    (∀ value : Json, ((∃ items, value = .array items) ∨ ∃ fields, value = .object fields) →
      value.Fits Json.maxDepth → registry.decode type (registry.encode type value) = .ok value) ∧
    ∀ text, (registry.decode type (registry.encode type (.string text)) = .ok (.string text) ↔
        Json.ofText? text = none) ∧
      ∀ document, Json.ofText? text = some document →
        registry.decode type (registry.encode type (.string text)) = .ok document := by
  have guessed : registry.codecFor type = .bestGuess :=
    (codecFor_of_not_registered unregistered).trans guesses
  simp only [decode, encode, guessed]
  refine ⟨fun truth => rfl, Codec.decode_bestGuess_integer, fun value structured fits => ?_,
    fun text => ⟨Codec.decode_bestGuess_string_iff text, fun document read => ?_⟩⟩
  · exact Codec.decode_bestGuess_structure structured fits
  · rw [Codec.decode_bestGuess_string, read, Option.getD_some]

/-- An array is kept, and its text is read as the array. A number too large for a document is kept as
text. -/
theorem decode_encode_guessed_money :
    let type : PropertyType := .custom "Money"
    let prices : Json := .array [.object [("é", .null)], .number (.integer 18446744073709551615 (by decide))]
    default.isRegistered type = false ∧ default.fallback = .bestGuess ∧
      default.decode type (default.encode type prices) = .ok prices ∧
      default.decode type (default.encode type (.string "[\x7b\"é\":null\x7d,18446744073709551615]")) =
        .ok prices ∧
      default.decode type (default.encode type (.string "1e400")) = .ok (.string "1e400") := by
  intro type prices
  have unregistered : default.isRegistered type = false := rfl
  have guesses : default.fallback = .bestGuess := rfl
  have fits : prices.Fits Json.maxDepth := ⟨by decide, by decide, by decide⟩
  have written : prices.toText = "[\x7b\"é\":null\x7d,18446744073709551615]" := by decide
  have tooLarge : (Json.ofText? "1e400").isNone = true := by decide +kernel
  obtain ⟨-, -, structures, strings⟩ := decode_encode_guessed unregistered guesses
  refine ⟨unregistered, guesses, structures prices (.inl ⟨_, rfl⟩) fits, ?_,
    (strings "1e400").1.2 (Option.isNone_iff_eq_none.1 tooLarge)⟩
  rw [← written]
  exact (strings prices.toText).2 prices (Json.ofText?_toText fits)

end CodecRegistry

end RecordStore
