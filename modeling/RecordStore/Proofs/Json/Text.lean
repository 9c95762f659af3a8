import RecordStore.Proofs.Json.Fields
import RecordStore.Proofs.Json.Scalars

/-!
# Reading back values

A value whose numbers are integers is read back from its text by a reader that nests as deep as the
value does (`Json.readValue_print`), objects coming back with their fields in order. So stored text
keeps such a value (`Json.ofText?_toText`).
-/

namespace RecordStore.Json

open Text

/-! ## Values that text keeps -/

mutual

/-- How deep arrays and objects nest in a value. -/
def depth : Json → Nat
  | .array items => itemsDepth items + 1
  | .object fields => fieldsDepth fields + 1
  | _ => 0

/-- How deep the deepest of some items nests. -/
def itemsDepth : List Json → Nat
  | [] => 0
  | item :: rest => max item.depth (itemsDepth rest)

/-- How deep the deepest value of some fields nests. -/
def fieldsDepth : List (String × Json) → Nat
  | [] => 0
  | (_, value) :: rest => max value.depth (fieldsDepth rest)

end

mutual

/-- Whether all numbers in a value are integers. -/
def hasIntegersOnly : Json → Bool
  | .number (.double _) => false
  | .array items => itemsHaveIntegersOnly items
  | .object fields => fieldsHaveIntegersOnly fields
  | _ => true

/-- Whether all numbers in some items are integers. -/
def itemsHaveIntegersOnly : List Json → Bool
  | [] => true
  | item :: rest => item.hasIntegersOnly && itemsHaveIntegersOnly rest

/-- Whether all numbers in the values of some fields are integers. -/
def fieldsHaveIntegersOnly : List (String × Json) → Bool
  | [] => true
  | (_, value) :: rest => value.hasIntegersOnly && fieldsHaveIntegersOnly rest

end

instance (fields : List (String × Json)) : Decidable (Ordered fields) :=
  inferInstanceAs (Decidable (List.Pairwise _ _))

mutual

/-- Whether every object in a value holds its fields in the order of their names. -/
def isOrdered : Json → Bool
  | .array items => itemsAreOrdered items
  | .object fields => decide (Ordered fields) && fieldsAreOrdered fields
  | _ => true

/-- Whether every object in some items holds its fields in order. -/
def itemsAreOrdered : List Json → Bool
  | [] => true
  | item :: rest => item.isOrdered && itemsAreOrdered rest

/-- Whether every object in the values of some fields holds its fields in order. -/
def fieldsAreOrdered : List (String × Json) → Bool
  | [] => true
  | (_, value) :: rest => value.isOrdered && fieldsAreOrdered rest

end

/-- A value that a reader of a depth reads back from its text. Objects hold their fields in order, as
`ofFields` makes them. -/
structure Fits (depth : Nat) (json : Json) : Prop where
  depth_le : json.depth ≤ depth
  integers : json.hasIntegersOnly = true
  ordered : json.isOrdered = true

/-! ## Sequences -/

/-- What may follow a value: nothing, or the next sign of an array or object. -/
def EndsValue (rest : List Char) : Prop := ∀ c ∈ rest.head?, c = ',' ∨ c = ']' ∨ c = '}'

theorem endsValue_nil : EndsValue [] := by simp [EndsValue]

theorem EndsValue.endsNumber {rest : List Char} (ends : EndsValue rest) : EndsNumber rest := by
  intro c head
  rcases ends c head with rfl | rfl | rfl <;> decide

/-- The text after the first element of a sequence. -/
def afterFirst (close : Char) : List (List Char) → List Char
  | [] => [close]
  | text :: rest => ',' :: text ++ afterFirst close rest

theorem length_lt_afterFirst (close : Char) (texts : List (List Char)) :
    texts.length < (afterFirst close texts).length := by
  induction texts with
  | nil => exact Nat.zero_lt_one
  | cons text rest ih =>
    simp only [afterFirst, List.length_cons, List.length_append]
    omega

theorem endsValue_afterFirst {close : Char} (closes : close = ']' ∨ close = '}')
    (texts : List (List Char)) (rest : List Char) : EndsValue (afterFirst close texts ++ rest) := by
  intro c head
  cases texts with
  | nil =>
    cases head
    exact .inr closes
  | cons =>
    cases head
    exact .inl rfl

theorem skipBlank_cons {c : Char} (notBlank : isJsonBlank c = false) (rest : List Char) :
    skipBlank (c :: rest) = c :: rest := by
  rw [skipBlank, List.dropWhile_cons, if_neg (by simp [notBlank])]

section

variable {α : Type} {element : List Char → Option (α × List Char)} {text : α → List Char}
  {close : Char}

/-- Elements with commas between them are read one by one up to the closing character. -/
theorem readElements_afterFirst (closes : close = ']' ∨ close = '}') (rest : List Char)
    {first : α} {others : List α}
    (each : ∀ entry ∈ first :: others, ∀ rest, EndsValue rest →
      element (text entry ++ rest) = some (entry, rest))
    {limit : Nat} (room : others.length < limit) :
    readElements element close limit
        (text first ++ (afterFirst close (others.map text) ++ rest)) =
      some (first :: others, rest) := by
  obtain ⟨limit, rfl⟩ :=
    Nat.exists_eq_add_of_le' (show 1 ≤ limit from Nat.le_trans (Nat.le_add_left 1 _) room)
  induction others generalizing first limit with
  | nil =>
    rw [readElements, each first List.mem_cons_self _ (endsValue_afterFirst closes _ rest)]
    rcases closes with rfl | rfl <;> rfl
  | cons second others ih =>
    obtain ⟨limit, rfl⟩ := Nat.exists_eq_add_of_le'
      (show 1 ≤ limit from Nat.le_trans (Nat.le_add_left 1 _) (Nat.le_of_lt_succ room))
    have tail := ih (fun entry member => each entry (List.mem_cons_of_mem _ member)) limit
      (Nat.lt_of_succ_lt_succ room)
    rw [readElements, each first List.mem_cons_self _ (endsValue_afterFirst closes _ rest)]
    rw [List.map_cons, afterFirst, List.cons_append, List.cons_append, List.append_assoc]
    simp only [Option.bind_eq_bind, Option.bind_some, skipBlank_cons (show isJsonBlank ',' = false from rfl),
      tail, Option.pure_def]

/-- A sequence is read after its opening character. -/
theorem readSequence_afterFirst (closes : close = ']' ∨ close = '}') (rest : List Char)
    {first : α} {others : List α}
    (each : ∀ entry ∈ first :: others, ∀ rest, EndsValue rest →
      element (text entry ++ rest) = some (entry, rest))
    (begins : ∃ c more, text first = c :: more ∧ isJsonBlank c = false ∧ c ≠ close) :
    readSequence element close (text first ++ (afterFirst close (others.map text) ++ rest)) =
      some (first :: others, rest) := by
  obtain ⟨c, more, starts, notBlank, notClose⟩ := begins
  have room : others.length <
      (text first ++ (afterFirst close (others.map text) ++ rest)).length := by
    have length := length_lt_afterFirst close (others.map text)
    rw [List.length_map] at length
    simp only [List.length_append]
    omega
  have read := readElements_afterFirst closes rest each room
  rw [readSequence]
  rw [starts, List.cons_append] at read ⊢
  rw [skipBlank_cons notBlank]
  simp only [notClose, if_false]
  exact read

end

/-- The text of a field. -/
def fieldText (field : String × Json) : List Char :=
  stringText field.1 ++ ':' :: print field.2

theorem printItems_eq (items : List Json) : printItems items = afterFirst ']' (items.map print) := by
  induction items with
  | nil => rfl
  | cons item rest ih => rw [printItems, ih, List.map_cons, afterFirst]

theorem printFields_eq (fields : List (String × Json)) :
    printFields fields = afterFirst '}' (fields.map fieldText) := by
  induction fields with
  | nil => rfl
  | cons field rest ih =>
    obtain ⟨name, value⟩ := field
    rw [printFields, ih, List.map_cons, afterFirst, fieldText]
    simp

/-- A field is read when its value is. -/
theorem readField_fieldText {read : List Char → Option (Json × List Char)}
    {field : String × Json} {rest : List Char}
    (value : read (print field.2 ++ rest) = some (field.2, rest)) :
    readField read (fieldText field ++ rest) = some (field, rest) := by
  have name := readString_stringText field.1 (':' :: (print field.2 ++ rest))
  have quoted : ∃ more, stringText field.1 ++ ':' :: (print field.2 ++ rest) = '"' :: more :=
    ⟨_, rfl⟩
  obtain ⟨more, begins⟩ := quoted
  rw [fieldText, List.append_assoc, List.cons_append, readField, begins,
    skipBlank_cons (show isJsonBlank '"' = false from rfl), ← begins, name]
  simp only [Option.bind_eq_bind, Option.bind_some,
    skipBlank_cons (show isJsonBlank ':' = false from rfl), value, Option.pure_def]

theorem isJsonBlank_of_beginsNumber {c : Char} (first : c = '-' ∨ c.isDigit = true) :
    isJsonBlank c = false := by
  simp only [isJsonBlank, Bool.or_eq_false_iff, beq_eq_false_iff_ne]
  exact ⟨⟨⟨ne_of_beginsNumber first (by decide), ne_of_beginsNumber first (by decide)⟩,
    ne_of_beginsNumber first (by decide)⟩, ne_of_beginsNumber first (by decide)⟩

/-- The text of a value begins with no blank and with no closing bracket. -/
theorem exists_print_eq_cons {json : Json} (integers : json.hasIntegersOnly = true) :
    ∃ c more, print json = c :: more ∧ isJsonBlank c = false ∧ c ≠ ']' := by
  cases json with
  | null => exact ⟨'n', _, rfl, rfl, by decide⟩
  | bool value =>
    cases value with
    | true => exact ⟨'t', _, rfl, rfl, by decide⟩
    | false => exact ⟨'f', _, rfl, rfl, by decide⟩
  | string value => exact ⟨'"', _, rfl, rfl, by decide⟩
  | array items => cases items with
    | nil => exact ⟨'[', _, rfl, rfl, by decide⟩
    | cons => exact ⟨'[', _, rfl, rfl, by decide⟩
  | object fields => cases fields with
    | nil => exact ⟨'{', _, rfl, rfl, by decide⟩
    | cons => exact ⟨'{', _, rfl, rfl, by decide⟩
  | number value =>
    cases value with
    | double => cases integers
    | integer value range =>
      obtain ⟨c, run, begins, first⟩ := exists_signedDigits_eq_cons value
      exact ⟨c, run, begins, isJsonBlank_of_beginsNumber first, ne_of_beginsNumber first (by decide)⟩

/-! ## Values -/

theorem readValue_scalar {c : Char} (notBlank : isJsonBlank c = false) (noArray : c ≠ '[')
    (noObject : c ≠ '{') (depth : Nat) (rest : List Char) :
    readValue depth (c :: rest) = readScalar (c :: rest) := by
  cases depth with
  | zero => rw [readValue, skipBlank_cons notBlank]
  | succ depth =>
    rw [readValue, skipBlank_cons notBlank]
    split
    · next same =>
      cases same
      exact absurd rfl noArray
    · next same =>
      cases same
      exact absurd rfl noObject
    · rfl

mutual

/-- A value is read back from its text. -/
theorem readValue_print (json : Json) {limit : Nat} (fits : json.Fits limit) {rest : List Char}
    (ends : EndsValue rest) : readValue limit (print json ++ rest) = some (json, rest) := by
  obtain ⟨deep, integers, ordered⟩ := fits
  cases json with
  | null => exact readValue_scalar rfl (by decide) (by decide) _ _
  | bool value =>
    cases value with
    | true => exact readValue_scalar rfl (by decide) (by decide) _ _
    | false => exact readValue_scalar rfl (by decide) (by decide) _ _
  | string value =>
    have read : readScalar (stringText value ++ rest) = some (.string value, rest) := by
      have body := readString_stringText value rest
      rw [stringText, List.cons_append, List.cons_append] at body ⊢
      rw [readScalar, body]
      rfl
    rw [print, ← read]
    exact readValue_scalar rfl (by decide) (by decide) _ _
  | number value =>
    cases value with
    | double => cases integers
    | integer value range =>
      have read := readScalar_signedDigits range ends.endsNumber
      obtain ⟨c, run, begins, first⟩ := exists_signedDigits_eq_cons value
      rw [print, JsonNumber.text]
      rw [begins, List.cons_append] at read ⊢
      rw [readValue_scalar (isJsonBlank_of_beginsNumber first)
        (ne_of_beginsNumber first (by decide)) (ne_of_beginsNumber first (by decide)), read]
  | array items =>
    obtain ⟨limit, rfl⟩ := Nat.exists_eq_add_of_le' (Nat.le_trans (Nat.le_add_left 1 _) deep)
    have each := readValue_printItems items (Nat.le_of_succ_le_succ deep) integers ordered
    cases items with
    | nil => rfl
    | cons first others =>
      have begins := exists_print_eq_cons (Bool.and_eq_true_iff.1 integers).1
      have read := readSequence_afterFirst (.inl rfl) rest each begins
      rw [print, printItems_eq, List.cons_append, List.cons_append, List.append_assoc, readValue,
        skipBlank_cons (show isJsonBlank '[' = false from rfl)]
      simp only [read, Option.map_some]
  | object fields =>
    obtain ⟨limit, rfl⟩ := Nat.exists_eq_add_of_le' (Nat.le_trans (Nat.le_add_left 1 _) deep)
    obtain ⟨sorted, ordered⟩ := Bool.and_eq_true_iff.1 ordered
    have each := readField_printFields fields (Nat.le_of_succ_le_succ deep) integers ordered
    have kept := ofFields_of_ordered (of_decide_eq_true sorted)
    cases fields with
    | nil => rfl
    | cons first others =>
      obtain ⟨name, value⟩ := first
      have begins : ∃ c more, fieldText (name, value) = c :: more ∧ isJsonBlank c = false ∧ c ≠ '}' :=
        ⟨'"', _, rfl, rfl, by decide⟩
      have read := readSequence_afterFirst (.inr rfl) rest each begins
      have written : print (.object ((name, value) :: others)) ++ rest =
          '{' :: (fieldText (name, value) ++ (afterFirst '}' (others.map fieldText) ++ rest)) := by
        rw [print, printFields_eq, fieldText]
        simp
      rw [written, readValue, skipBlank_cons (show isJsonBlank '{' = false from rfl)]
      simp only [read, Option.map_some, kept]

theorem readValue_printItems (items : List Json) {limit : Nat} (deep : itemsDepth items ≤ limit)
    (integers : itemsHaveIntegersOnly items = true) (ordered : itemsAreOrdered items = true) :
    ∀ item ∈ items, ∀ rest, EndsValue rest →
      readValue limit (print item ++ rest) = some (item, rest) := by
  cases items with
  | nil => exact nofun
  | cons first others =>
    rw [itemsDepth, Nat.max_le] at deep
    rw [itemsHaveIntegersOnly, Bool.and_eq_true] at integers
    rw [itemsAreOrdered, Bool.and_eq_true] at ordered
    intro item member rest ends
    rcases List.mem_cons.1 member with same | later
    · rw [same]
      exact readValue_print first ⟨deep.1, integers.1, ordered.1⟩ ends
    · exact readValue_printItems others deep.2 integers.2 ordered.2 item later rest ends

theorem readField_printFields (fields : List (String × Json)) {limit : Nat}
    (deep : fieldsDepth fields ≤ limit) (integers : fieldsHaveIntegersOnly fields = true)
    (ordered : fieldsAreOrdered fields = true) :
    ∀ field ∈ fields, ∀ rest, EndsValue rest →
      readField (readValue limit) (fieldText field ++ rest) = some (field, rest) := by
  cases fields with
  | nil => exact nofun
  | cons first others =>
    obtain ⟨name, value⟩ := first
    rw [fieldsDepth, Nat.max_le] at deep
    rw [fieldsHaveIntegersOnly, Bool.and_eq_true] at integers
    rw [fieldsAreOrdered, Bool.and_eq_true] at ordered
    intro field member rest ends
    rcases List.mem_cons.1 member with same | later
    · rw [same]
      exact readField_fieldText (readValue_print value ⟨deep.1, integers.1, ordered.1⟩ ends)
    · exact readField_printFields others deep.2 integers.2 ordered.2 field later rest ends

end

/-- Stored text keeps a value with integers only that is not nested too deep. -/
theorem ofText?_toText {json : Json} (fits : json.Fits maxDepth) : ofText? json.toText = some json := by
  have read := readValue_print json fits endsValue_nil
  rw [List.append_nil] at read
  rw [ofText?, toText, String.toList_ofList, readDocument, read]
  rfl

end RecordStore.Json
