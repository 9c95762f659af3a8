import RecordStore.Proofs.Json.Document
import RecordStore.Proofs.Search.Grammar

/-!
# What is read as a search

Each reader of a part of a search accepts the documents of that part, the lenient forms among them, and
no others. So the documents that are read as searches are known exactly, and those among them that have
no documented form are the ones that are not plain (`Search.accepted_iff_written`).
-/

namespace RecordStore

/-! ## Leaves -/

theorem readOr_eq_some_iff {α : Type} {default value : α} {read : Json → Option α} {json? : Option Json} :
    readOr default read json? = some value ↔
      Part (fun json value => read json = some value) default json? value := by
  constructor
  · intro found
    cases json? with
    | none =>
      cases found
      exact .absent
    | some json => exact .present found
  · rintro (_ | found)
    · rfl
    · exact found

theorem Json.bool?_eq_some_iff {json : Json} {value : Bool} :
    json.bool? = some value ↔ json = .bool value := by
  cases json <;> simp [Json.bool?]

theorem Json.string?_eq_some_iff {json : Json} {value : String} :
    json.string? = some value ↔ json = .string value := by
  cases json <;> simp [Json.string?]

theorem readOr_bool?_eq_some_iff {json? : Option Json} {value : Bool} :
    readOr false Json.bool? json? = some value ↔ Flag json? value := by
  rw [readOr_eq_some_iff, Flag]
  simp only [Json.bool?_eq_some_iff]

namespace Equality

theorem ofSymbol?_eq_some_iff {symbol : String} {equality : Equality} :
    ofSymbol? symbol = some equality ↔ equality.symbol = symbol := by
  constructor
  · exact fun found => by simpa using List.find?_some found
  · rintro rfl
    cases equality <;> decide

/-- An equality is read from its documents. -/
theorem ofJson?_eq_some_iff {json : Json} {equality : Equality} :
    ofJson? json = some equality ↔ Written .lenient json equality := by
  constructor
  · intro read
    unfold ofJson? at read
    split at read
    · rw [← ofSymbol?_eq_some_iff.1 read]
      exact .symbol equality
    · rw [← ofSymbol?_eq_some_iff.1 read]
      exact .object equality rfl (.inl rfl)
    · rw [← ofSymbol?_eq_some_iff.1 read]
      exact .object equality rfl (.inr rfl)
    · cases read
  · rintro (_ | ⟨_, _, rfl | rfl⟩)
    all_goals exact ofSymbol?_eq_some_iff.2 rfl

end Equality

namespace PropertyOptions

theorem flags_eq_some_iff {starts? ends? cased? : Option Json} {options : PropertyOptions} :
    (do
      let startsWith ← readOr false Json.bool? starts?
      let endsWith ← readOr false Json.bool? ends?
      let caseSensitive ← readOr false Json.bool? cased?
      return { startsWith, endsWith, caseSensitive } : Option PropertyOptions) = some options ↔
      ∃ startsWith endsWith caseSensitive, Flag starts? startsWith ∧ Flag ends? endsWith ∧
        Flag cased? caseSensitive ∧ { startsWith, endsWith, caseSensitive } = options := by
  simp only [Option.bind_eq_bind, Option.bind_eq_some_iff, readOr_bool?_eq_some_iff, Option.pure_def,
    Option.some.injEq]
  constructor
  · rintro ⟨_, starts, _, ends, _, cased, rfl⟩
    exact ⟨_, _, _, starts, ends, cased, rfl⟩
  · rintro ⟨_, _, _, starts, ends, cased, rfl⟩
    exact ⟨_, starts, _, ends, _, cased, rfl⟩

/-- The options of a property leaf are read from their documents. -/
theorem ofJson?_eq_some_iff {json : Json} {options : PropertyOptions} :
    ofJson? json = some options ↔ Written .lenient json options := by
  constructor
  · intro read
    match json with
    | .object fields =>
      obtain ⟨_, _, _, starts, ends, cased, rfl⟩ := flags_eq_some_iff.1 read
      exact .fields starts ends cased
    | .array items =>
      rw [ofJson?] at read
      split at read
      · cases read
      · next short =>
        obtain ⟨_, _, _, starts, ends, cased, rfl⟩ := flags_eq_some_iff.1 read
        exact .items rfl (Nat.not_lt.1 short) starts ends cased
    | .null | .bool _ | .number _ | .string _ => cases read
  · intro written
    cases written with
    | fields starts ends cased => exact flags_eq_some_iff.2 ⟨_, _, _, starts, ends, cased, rfl⟩
    | items _ short starts ends cased =>
      rw [ofJson?, if_neg (Nat.not_lt.2 short)]
      exact flags_eq_some_iff.2 ⟨_, _, _, starts, ends, cased, rfl⟩

end PropertyOptions

/-- The options of a date leaf are read from their documents. -/
theorem inclusiveOfJson?_eq_some_iff {name : String} {json : Json} {inclusive : Bool} :
    inclusiveOfJson? name json = some inclusive ↔ InclusiveWritten name .lenient json inclusive := by
  constructor
  · intro read
    match json with
    | .object fields => exact .fields (readOr_bool?_eq_some_iff.1 read)
    | .array [] =>
      cases read
      exact .items rfl (Nat.zero_le _) .absent
    | .array [item] => exact .items rfl (Nat.le_refl _) (.present (Json.bool?_eq_some_iff.1 read))
    | .array (_ :: _ :: _) => cases read
    | .null | .bool _ | .number _ | .string _ => cases read
  · intro written
    cases written with
    | fields flag => exact readOr_bool?_eq_some_iff.2 flag
    | @items items _ _ short flag =>
      match items, short with
      | [], _ => exact readOr_bool?_eq_some_iff.2 flag
      | [item], _ => exact readOr_bool?_eq_some_iff.2 flag

theorem Instant.ofJson?_eq_some_iff {json : Json} {date : Instant} :
    ofJson? json = some date ↔ ∃ text, json = .string text ∧ ofDocument? text = some date := by
  simp only [ofJson?, Option.bind_eq_some_iff, Json.string?_eq_some_iff]

namespace Leaf

/-- A leaf is read from its tag and its parts. -/
theorem ofParts?_eq_some_iff {tag : LeafTag} {key content equality? options? : Option Json}
    {leaf : Leaf} :
    ofParts? tag key content equality? options? = some leaf ↔
      Parts .lenient tag key content equality? options? leaf := by
  constructor
  · intro read
    simp only [ofParts?, Option.bind_eq_bind, Option.bind_eq_some_iff, Json.string?_eq_some_iff] at read
    obtain ⟨name, ⟨_, rfl, rfl⟩, read⟩ := read
    cases tag with
    | property =>
      simp only [Option.bind_eq_some_iff, readOr_eq_some_iff, PropertyOptions.ofJson?_eq_some_iff,
        Equality.ofJson?_eq_some_iff] at read
      obtain ⟨_, options, _, equality, ⟨⟩⟩ := read
      exact .property equality options
    | datesBefore =>
      simp only [Option.bind_eq_some_iff, readOr_eq_some_iff, inclusiveOfJson?_eq_some_iff,
        Instant.ofJson?_eq_some_iff] at read
      obtain ⟨_, ⟨_, rfl, text, rfl, date⟩, _, options, ⟨⟩⟩ := read
      exact .datesBefore date options
    | datesAfter =>
      simp only [Option.bind_eq_some_iff, readOr_eq_some_iff, inclusiveOfJson?_eq_some_iff,
        Instant.ofJson?_eq_some_iff] at read
      obtain ⟨_, ⟨_, rfl, text, rfl, date⟩, _, options, ⟨⟩⟩ := read
      exact .datesAfter date options
  · intro parts
    cases parts with
    | property equality options =>
      simp only [ofParts?, Option.bind_eq_bind, Option.bind_eq_some_iff, readOr_eq_some_iff,
        PropertyOptions.ofJson?_eq_some_iff, Equality.ofJson?_eq_some_iff]
      exact ⟨_, ⟨_, rfl, rfl⟩, _, options, _, equality, rfl⟩
    | datesBefore date options =>
      simp only [ofParts?, Option.bind_eq_bind, Option.bind_eq_some_iff, readOr_eq_some_iff,
        inclusiveOfJson?_eq_some_iff, Instant.ofJson?_eq_some_iff]
      exact ⟨_, ⟨_, rfl, rfl⟩, _, ⟨_, rfl, _, rfl, date⟩, _, options, rfl⟩
    | datesAfter date options =>
      simp only [ofParts?, Option.bind_eq_bind, Option.bind_eq_some_iff, readOr_eq_some_iff,
        inclusiveOfJson?_eq_some_iff, Instant.ofJson?_eq_some_iff]
      exact ⟨_, ⟨_, rfl, rfl⟩, _, ⟨_, rfl, _, rfl, date⟩, _, options, rfl⟩

/-- A leaf is read from an object that is one of its documents. -/
theorem ofFields?_eq_some_iff {fields : List (String × Json)} {leaf : Leaf} :
    ofFields? fields = some leaf ↔ Written .lenient (.object fields) leaf := by
  simp only [ofFields?, Option.bind_eq_bind, Option.bind_eq_some_iff, LeafTag.ofJson?_eq_some_iff,
    ofParts?_eq_some_iff]
  constructor
  · rintro ⟨tag, ⟨json, tagged, written⟩, parts⟩
    exact .fields tagged written parts
  · rintro ⟨tagged, written, parts⟩
    exact ⟨_, ⟨_, tagged, written⟩, parts⟩

/-- A leaf is read from an array that is one of its documents. -/
theorem ofItems?_eq_some_iff {items : List Json} {leaf : Leaf} :
    ofItems? items = some leaf ↔ Written .lenient (.array items) leaf := by
  constructor
  · intro read
    match items with
    | [] => cases read
    | json :: items =>
      simp only [ofItems?, Option.bind_eq_bind, Option.bind_eq_some_iff,
        LeafTag.ofJson?_eq_some_iff] at read
      obtain ⟨tag, tagged, read⟩ := read
      split at read
      · split at read
        · cases read
        · next short =>
          exact .propertyItems rfl tagged (Nat.not_lt.1 short) (ofParts?_eq_some_iff.1 read)
      · next other =>
        split at read
        · cases read
        · next short =>
          exact .dateItems rfl other tagged (Nat.not_lt.1 short) (ofParts?_eq_some_iff.1 read)
  · intro written
    cases written with
    | propertyItems _ tagged short parts =>
      rw [ofItems?, LeafTag.ofJson?_eq_some_iff.2 tagged]
      exact (if_neg (Nat.not_lt.2 short)).trans (ofParts?_eq_some_iff.2 parts)
    | @dateItems _ tag _ _ _ other tagged short parts =>
      rw [ofItems?, LeafTag.ofJson?_eq_some_iff.2 tagged]
      cases tag with
      | property => contradiction
      | datesBefore | datesAfter =>
        exact (if_neg (Nat.not_lt.2 short)).trans (ofParts?_eq_some_iff.2 parts)

end Leaf

/-! ## Tokens -/

namespace Token

theorem ofWord?_eq_some_iff {word : String} {token : Token} :
    ofWord? word = some token ↔ (word = "AND" ∧ token = .and) ∨ word = "OR" ∧ token = .or := by
  unfold ofWord?
  split <;> simp_all [eq_comm]

mutual

/-- A token is read from its documents. An array cannot be both a group and a leaf, since no token is the
tag of a leaf. -/
theorem ofJson?_eq_some_iff : ∀ (json : Json) (token : Token),
    ofJson? json = some token ↔ Written .lenient json token
  | .string word, token => by
    rw [ofJson?, ofWord?_eq_some_iff]
    constructor
    · rintro (⟨rfl, rfl⟩ | ⟨rfl, rfl⟩)
      · exact .and
      · exact .or
    · rintro (_ | _ | _ | _ | _ | ⟨⟨⟩⟩)
      · exact .inl ⟨rfl, rfl⟩
      · exact .inr ⟨rfl, rfl⟩
  | .object fields, token => by
    simp only [ofJson?, Option.or_eq_some_iff, Option.map_eq_some_iff, Leaf.ofFields?_eq_some_iff]
    constructor
    · rintro (link | ⟨-, leaf, written, rfl⟩)
      · split at link
        · obtain ⟨rfl, rfl⟩ | ⟨rfl, rfl⟩ := ofWord?_eq_some_iff.1 link
          · exact .andObject rfl
          · exact .orObject rfl
        · cases link
      · exact .leaf written
    · intro written
      cases written with
      | andObject | orObject => exact .inl rfl
      | leaf leaf =>
        refine .inr ⟨?_, _, leaf, rfl⟩
        split
        · exact absurd leaf Leaf.not_written_null
        · rfl
  | .array items, token => by
    have each := listOfJson?_eq_some_iff items
    simp only [ofJson?, Option.or_eq_some_iff, Option.map_eq_some_iff, Option.map_eq_none_iff, each,
      Leaf.ofItems?_eq_some_iff]
    constructor
    · rintro (⟨tokens, written, rfl⟩ | ⟨-, leaf, written, rfl⟩)
      · exact .group written
      · exact .leaf written
    · intro written
      cases written with
      | group tokens => exact .inl ⟨_, tokens, rfl⟩
      | leaf leaf =>
        refine .inr ⟨Option.eq_none_iff_forall_ne_some.2 fun tokens read => ?_, _, leaf, rfl⟩
        obtain ⟨tag, tagged⟩ := leaf.head?_tag
        cases (head?_of_forall₂ ((each tokens).1 read)).symm.trans tagged
  | .null, token | .bool _, token | .number _, token => by
    refine iff_of_false nofun ?_
    rintro (_ | _ | _ | _ | _ | ⟨⟨⟩⟩)

theorem listOfJson?_eq_some_iff : ∀ (items : List Json) (tokens : List Token),
    listOfJson? items = some tokens ↔ List.Forall₂ (Written .lenient) items tokens
  | [], tokens => by simp [listOfJson?, eq_comm]
  | item :: rest, tokens => by
    have first := ofJson?_eq_some_iff item
    have others := listOfJson?_eq_some_iff rest
    simp only [listOfJson?, Option.bind_eq_bind, Option.bind_eq_some_iff, first, others,
      List.forall₂_cons_left_iff]
    constructor
    · rintro ⟨token, written, later, each, ⟨⟩⟩
      exact ⟨token, later, written, each, rfl⟩
    · rintro ⟨token, later, written, each, rfl⟩
      exact ⟨token, written, later, each, rfl⟩

end

end Token

/-! ## Searches -/

section Parts

variable {α : Type} {json? : Option Json} {read : Json → Reading α}

/-- A part that is read if it is there, and has a default otherwise. -/
theorem exists_rel_iff {written : Json → α → Prop} {default value : α} :
    (∃ found, Option.Rel written json? found ∧ found.getD default = value) ↔
      Part written default json? value := by
  constructor
  · rintro ⟨_, there | _, rfl⟩
    · exact .present there
    · exact .absent
  · rintro (_ | there)
    · exact ⟨none, .none, rfl⟩
    · exact ⟨some _, .some there, rfl⟩

theorem nullable_eq_ok_iff_written {json : Json} {value : Option α} :
    Document.nullable read json = .ok value ↔
      Nullable (fun json value => read json = .ok value) json value := by
  rw [Document.nullable_eq_ok_iff]
  constructor
  · rintro (⟨rfl, rfl⟩ | ⟨other, content, there, rfl⟩)
    · exact .null
    · exact .present other there
  · rintro (_ | ⟨other, there⟩)
    · exact .inl ⟨rfl, rfl⟩
    · exact .inr ⟨other, _, there, rfl⟩

/-- A part that may be absent or null. -/
theorem exists_rel_nullable_iff {value : Option α} :
    (∃ found, Option.Rel (fun json value => Document.nullable read json = .ok value) json? found ∧
      found.join = value) ↔
      Part (Nullable fun json value => read json = .ok value) none json? value := by
  have joined (found : Option (Option α)) : found.join = found.getD none := by cases found <;> rfl
  simp only [joined, exists_rel_iff, nullable_eq_ok_iff_written]

end Parts

namespace SortStatement

theorem directionOfJson_eq_ok_iff {json : Json} {direction : Direction} :
    directionOfJson json = .ok direction ↔ DirectionWritten json direction := by
  rw [directionOfJson, bind_eq_ok_iff]
  simp only [Document.string_eq_ok_iff]
  constructor
  · rintro ⟨word, rfl, ⟨⟩⟩
    exact ⟨word, rfl, rfl⟩
  · rintro ⟨word, rfl, rfl⟩
    exact ⟨word, rfl, rfl⟩

theorem directionPart_iff {json? : Option Json} {direction : Direction} :
    (∃ found, Option.Rel (fun json value => directionOfJson json = .ok value) json? found ∧
      found.getD .ascending = direction) ↔ Part DirectionWritten .ascending json? direction := by
  simp only [exists_rel_iff, directionOfJson_eq_ok_iff]

/-- An order is read from its documents. -/
theorem ofJson_eq_ok_iff {json : Json} {sort : SortStatement} :
    ofJson json = .ok sort ↔ Written .lenient json sort := by
  constructor
  · intro read
    match json with
    | .object fields =>
      simp only [ofJson, bind_eq_ok_iff, Document.required_eq_ok_iff] at read
      obtain ⟨_, keyed, _, directed, key, rfl, ⟨⟩⟩ := read
      obtain ⟨_, hasKey, string⟩ := Document.field?_eq_ok_some_iff.1 keyed
      rw [Document.string_eq_ok_iff.1 string] at hasKey
      exact .fields hasKey (directionPart_iff.1 ⟨_, Document.field?_eq_ok_iff.1 directed, rfl⟩)
    | .array items =>
      simp only [ofJson, bind_eq_ok_iff] at read
      obtain ⟨key, keyed, _, directed, _, short, ⟨⟩⟩ := read
      obtain ⟨_, first, string⟩ := Document.element_eq_ok_iff.1 keyed
      rw [Document.string_eq_ok_iff.1 string] at first
      obtain ⟨rest, rfl⟩ : ∃ rest, items = .string key :: rest := by
        cases items <;> simp_all
      exact .items rfl (Nat.le_of_succ_le_succ (Document.noMore_eq_ok_iff.1 short))
        (directionPart_iff.1 ⟨_, Document.element?_eq_ok_iff.1 directed, rfl⟩)
    | .null | .bool _ | .number _ | .string _ => cases read
  · intro written
    cases written with
    | fields hasKey directed =>
      obtain ⟨_, found, rfl⟩ := directionPart_iff.2 directed
      simp only [ofJson, bind_eq_ok_iff, Document.required_eq_ok_iff]
      exact ⟨_, Document.field?_eq_ok_some_iff.2 ⟨_, hasKey, rfl⟩, _,
        Document.field?_eq_ok_iff.2 found, _, rfl, rfl⟩
    | items _ short directed =>
      obtain ⟨_, found, rfl⟩ := directionPart_iff.2 directed
      simp only [ofJson, bind_eq_ok_iff]
      exact ⟨_, Document.element_eq_ok_iff.2 ⟨_, rfl, rfl⟩, _, Document.element?_eq_ok_iff.2 found,
        (), Document.noMore_eq_ok_iff.2 (Nat.succ_le_succ short), rfl⟩

end SortStatement

namespace Search

theorem tokensOfJson_eq_ok_iff {json : Json} {tokens : List Token} :
    tokensOfJson json = .ok tokens ↔
      ∃ items, json = .array items ∧ List.Forall₂ (Token.Written .lenient) items tokens := by
  rw [tokensOfJson, Document.list_eq_ok_iff]
  refine exists_congr fun items => and_congr_right fun _ =>
    iff_of_eq (congrArg (List.Forall₂ · items tokens) ?_)
  funext json token
  rw [← Token.ofJson?_eq_some_iff]
  cases Token.ofJson? json <;> simp

theorem sortPart_iff {json? : Option Json} {sort : Option SortStatement} :
    (∃ found, Option.Rel (fun json value => Document.nullable SortStatement.ofJson json = .ok value)
      json? found ∧ found.join = sort) ↔ SortWritten .lenient json? sort := by
  simp only [exists_rel_nullable_iff, SortStatement.ofJson_eq_ok_iff, SortWritten]

theorem rowNumber_iff {json? : Option Json} {number : Option UInt64} :
    (∃ found, Option.Rel (fun json value => Document.nullable Document.word json = .ok value)
      json? found ∧ found.join = number) ↔ RowNumber json? number := by
  simp only [exists_rel_nullable_iff, Document.word_eq_ok_iff, RowNumber]

/-- The structure of a search is read from its documents. -/
theorem read_eq_ok_iff {json : Json} {search : Search} :
    read json = .ok search ↔ Written .lenient json search := by
  constructor
  · intro found
    match json with
    | .object fields =>
      simp only [read, bind_eq_ok_iff, Document.required_eq_ok_iff, Document.field?_eq_ok_iff] at found
      obtain ⟨_, page, _, query, _, sort, _, take, tokens, rfl, ⟨⟩⟩ := found
      obtain ⟨_, hasQuery, listed⟩ := Document.field?_eq_ok_some_iff.1 (Document.field?_eq_ok_iff.2 query)
      obtain ⟨items, rfl, each⟩ := tokensOfJson_eq_ok_iff.1 listed
      exact .fields hasQuery each (sortPart_iff.1 ⟨_, sort, rfl⟩) (rowNumber_iff.1 ⟨_, take, rfl⟩)
        (rowNumber_iff.1 ⟨_, page, rfl⟩)
    | .array items =>
      simp only [read, bind_eq_ok_iff, Document.element?_eq_ok_iff] at found
      obtain ⟨tokens, query, _, sort, _, take, _, page, _, short, ⟨⟩⟩ := found
      obtain ⟨_, first, listed⟩ := Document.element_eq_ok_iff.1 query
      obtain ⟨inner, rfl, each⟩ := tokensOfJson_eq_ok_iff.1 listed
      obtain ⟨rest, rfl⟩ : ∃ rest, items = .array inner :: rest := by
        cases items <;> simp_all
      exact .items rfl (Nat.le_of_succ_le_succ (Document.noMore_eq_ok_iff.1 short)) each
        (sortPart_iff.1 ⟨_, sort, rfl⟩) (rowNumber_iff.1 ⟨_, take, rfl⟩)
        (rowNumber_iff.1 ⟨_, page, rfl⟩)
    | .null | .bool _ | .number _ | .string _ => cases found
  · intro written
    cases written with
    | fields hasQuery each sort take page =>
      obtain ⟨_, sorted, rfl⟩ := sortPart_iff.2 sort
      obtain ⟨_, taken, rfl⟩ := rowNumber_iff.2 take
      obtain ⟨_, paged, rfl⟩ := rowNumber_iff.2 page
      simp only [read, bind_eq_ok_iff, Document.required_eq_ok_iff]
      exact ⟨_, Document.field?_eq_ok_iff.2 paged, _, Document.field?_eq_ok_some_iff.2
        ⟨_, hasQuery, tokensOfJson_eq_ok_iff.2 ⟨_, rfl, each⟩⟩, _, Document.field?_eq_ok_iff.2 sorted, _,
        Document.field?_eq_ok_iff.2 taken, _, rfl, rfl⟩
    | items _ short each sort take page =>
      obtain ⟨_, sorted, rfl⟩ := sortPart_iff.2 sort
      obtain ⟨_, taken, rfl⟩ := rowNumber_iff.2 take
      obtain ⟨_, paged, rfl⟩ := rowNumber_iff.2 page
      simp only [read, bind_eq_ok_iff, Document.element?_eq_ok_iff]
      exact ⟨_, Document.element_eq_ok_iff.2 ⟨_, rfl, tokensOfJson_eq_ok_iff.2 ⟨_, rfl, each⟩⟩, _, sorted,
        _, taken, _, paged, (), Document.noMore_eq_ok_iff.2 (Nat.succ_le_succ short), rfl⟩

/-- A search is read from its documents, and from no others. -/
theorem ofJson_eq_ok_iff {json : Json} {search : Search} :
    ofJson json = .ok search ↔ Written .lenient json search := by
  rw [ofJson, mapError_eq_ok_iff, read_eq_ok_iff]

/-- What is read as a search. A document is read as the search that it is written for, in the documented
forms or in the others, and every other document is refused as malformed. The documents that have the
documented forms are the plain ones among those that are read. So only the documented forms are read
exactly when a document that is read is plain. -/
theorem accepted_iff_written (json : Json) :
    (∀ search, ofJson json = .ok search ↔ Written .lenient json search) ∧
    ((∃ search, Written .lenient json search) ∨
      ∃ fault, ofJson json = .error (.malformedQuery (.document fault))) ∧
    (∀ search, Written .strict json search ↔ ofJson json = .ok search ∧ isPlain json = true) ∧
    ((∀ search, ofJson json = .ok search ↔ Written .strict json search) ↔
      ((∃ search, ofJson json = .ok search) → isPlain json = true)) := by
  have plain (search : Search) :
      Written .strict json search ↔ ofJson json = .ok search ∧ isPlain json = true := by
    rw [written_strict_iff, ofJson_eq_ok_iff]
  refine ⟨fun search => ofJson_eq_ok_iff, ?_, plain, ?_⟩
  · cases found : read json with
    | ok search => exact .inl ⟨search, read_eq_ok_iff.1 found⟩
    | error fault => exact .inr ⟨fault, by rw [ofJson, found]; rfl⟩
  · simp only [plain, iff_self_and, forall_exists_index]

/-- A search with a group, a link and an order, in a document with a field of its own. -/
theorem accepted_iff_written_group :
    let leaf : Json := .object [("key", .string "name"), ("note", .null), ("type", .string "property")]
    let json : Json := .object [("comment", .bool true),
      ("query", .array [.array [leaf, .string "OR", leaf]]), ("sort", .object [("key", .string "name")])]
    ofJson json = .ok ⟨[.group [.leaf (.property "name" .null {}), .or,
      .leaf (.property "name" .null {})]], some ⟨"name", .ascending⟩, none, none⟩ := by
  intro leaf json
  have written : Token.Written .strict leaf (.leaf (.property "name" .null {})) :=
    .leaf (.fields rfl (.name .property) (.property .absent .absent))
  exact ((accepted_iff_written json).2.2.1 _).1 (.fields rfl
    (.cons (.group (.cons written (.cons .or (.cons written .nil)))) .nil)
    (.present (.present nofun (.fields rfl .absent))) .absent .absent) |>.1

/-- A leaf that is written as an array is read, though no documented form is an array of words that are
not links. -/
theorem ofJson_array_leaf :
    let json : Json := .object [("query",
      .array [.array [.string "property", .string "name", .string "abc"]])]
    ofJson json = .ok ⟨[.leaf (.property "name" (.string "abc") {})], none, none, none⟩ ∧
      ∀ search, ¬ Written .strict json search := by
  intro json
  have notPlain : isPlain json = false := by decide
  refine ⟨rfl, fun search written => ?_⟩
  rw [(written_strict_iff.1 written).2] at notPlain
  cases notPlain

end Search

end RecordStore
