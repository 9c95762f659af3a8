import RecordStore.Json.Reader

/-!
# Documents that are strings

Every character of a string takes at least one character of the text it is read from, and the quotes take
two more. So no text is a document that denotes the text itself (`Json.ofText?_ne_string`).
-/

namespace RecordStore.Json

/-- What is read after the first character of a string. -/
theorem exists_of_stringBody_bind {c : Char} {text body rest : List Char}
    (read : (do
      let (body, rest) ← stringBody text
      return (c :: body, rest)) = some (body, rest)) :
    ∃ others, stringBody text = some (others, rest) ∧ body = c :: others := by
  obtain ⟨⟨others, remaining⟩, later, same⟩ := Option.bind_eq_some_iff.1 read
  cases same
  exact ⟨others, later, rfl⟩

/-- A string takes a character of the text for each of its own, and one more for its closing quote. -/
theorem length_of_stringBody {text body rest : List Char} (read : stringBody text = some (body, rest)) :
    body.length + rest.length < text.length := by
  fun_induction stringBody text generalizing body rest with
  | case1 => cases read
  | case2 =>
    cases read
    simp
  | case3 a b c d following ih2 ih1 =>
    -- a code unit in hexadecimal digits: half of a character, which takes the second half, or all of it
    obtain ⟨unit, -, read⟩ := Option.bind_eq_some_iff.1 read
    split at read
    · cases read
    split at read
    · split at read
      · next e f g h rest' =>
        obtain ⟨second, -, read⟩ := Option.bind_eq_some_iff.1 read
        split at read
        · obtain ⟨others, later, rfl⟩ := exists_of_stringBody_bind read
          have shorter := ih2 later
          simp only [List.length_cons]
          omega
        · cases read
      · cases read
    · obtain ⟨others, later, rfl⟩ := exists_of_stringBody_bind read
      have shorter := ih1 later
      simp only [List.length_cons]
      omega
  | case4 letter following _ ih =>
    -- a character after a backslash
    obtain ⟨c, -, read⟩ := Option.bind_eq_some_iff.1 read
    obtain ⟨others, later, rfl⟩ := exists_of_stringBody_bind read
    have shorter := ih later
    simp only [List.length_cons]
    omega
  | case5 => cases read
  | case6 c following _ _ _ _ ih =>
    -- a character that stands for itself
    obtain ⟨others, later, rfl⟩ := exists_of_stringBody_bind read
    have shorter := ih later
    simp only [List.length_cons]
    omega

theorem length_of_readString {text rest : List Char} {value : String}
    (read : readString text = some (value, rest)) : value.length + rest.length + 1 < text.length := by
  rw [readString.eq_def] at read
  split at read
  · next following =>
    obtain ⟨⟨body, remaining⟩, inside, same⟩ := Option.bind_eq_some_iff.1 read
    cases same
    have shorter := length_of_stringBody inside
    simp only [String.length_ofList, List.length_cons]
    omega
  · cases read

theorem length_of_readScalar {text rest : List Char} {value : String}
    (read : readScalar text = some (.string value, rest)) :
    value.length + rest.length + 1 < text.length := by
  rw [readScalar.eq_def] at read
  split at read
  · cases read
  · cases read
  · cases read
  · obtain ⟨⟨found, remaining⟩, inside, same⟩ := Option.map_eq_some_iff.1 read
    cases same
    exact length_of_readString inside
  · obtain ⟨⟨found, remaining⟩, -, same⟩ := Option.map_eq_some_iff.1 read
    cases same

theorem length_skipBlank_le (text : List Char) : (skipBlank text).length ≤ text.length :=
  (List.dropWhile_suffix _).length_le

/-- Arrays and objects are no strings, so a string is read as a scalar at any depth. -/
theorem length_of_readValue {depth : Nat} {text rest : List Char} {value : String}
    (read : readValue depth text = some (.string value, rest)) :
    value.length + rest.length + 1 < text.length := by
  have scalar : readScalar (skipBlank text) = some (.string value, rest) := by
    cases depth with
    | zero => exact read
    | succ depth =>
      rw [readValue] at read
      split at read
      · obtain ⟨_, -, same⟩ := Option.map_eq_some_iff.1 read
        cases same
      · obtain ⟨_, -, same⟩ := Option.map_eq_some_iff.1 read
        cases same
      · exact read
  exact Nat.lt_of_lt_of_le (length_of_readScalar scalar) (length_skipBlank_le text)

/-- A document that denotes a string is longer than the string. -/
theorem length_of_ofText? {text value : String} (read : ofText? text = some (.string value)) :
    value.length < text.length := by
  obtain ⟨⟨found, rest⟩, inside, whole⟩ := Option.bind_eq_some_iff.1 read
  dsimp only at whole
  split at whole
  · cases whole
    have shorter := length_of_readValue inside
    rw [String.length_toList] at shorter
    omega
  · cases whole

/-- No document denotes its own text. -/
theorem ofText?_ne_string (text : String) : ofText? text ≠ some (.string text) :=
  fun read => Nat.lt_irrefl _ (length_of_ofText? read)

end RecordStore.Json
