import Mathlib.Data.List.Forall2
import RecordStore.Search.Document

/-!
# The grammar of search documents

The documents of a search are given by their forms, each with the search that it stands for
(`Search.Written`). With the strict latitude these are the documented forms. With the lenient one there
are others besides: an array of the fields in place of an object, a number in place of the tag of a
leaf, an object with one empty field in place of a link or a symbol. A document without any of these is
plain, and `Search.written_strict_iff` says that the documented forms are the plain ones among all.
-/

namespace RecordStore

/-- How much a grammar allows. -/
inductive Latitude where
  /-- The documented forms. -/
  | strict
  /-- The documented forms and the others. -/
  | lenient

/-! ## Parts of a document -/

/-- The value of a part that has a default when it is absent. -/
inductive Part {α : Type} (written : Json → α → Prop) (default : α) : Option Json → α → Prop
  | absent : Part written default none default
  | present {json : Json} {value : α} : written json value → Part written default (some json) value

/-- A value in whose place there may be null. -/
inductive Nullable {α : Type} (written : Json → α → Prop) : Json → Option α → Prop
  | null : Nullable written .null none
  | present {json : Json} {value : α} :
    json ≠ .null → written json value → Nullable written json (some value)

/-- A truth value that is false when it is absent. -/
def Flag : Option Json → Bool → Prop := Part (fun json value => json = .bool value) false

/-- A number of rows, which may be absent or null. -/
def RowNumber : Option Json → Option UInt64 → Prop :=
  Part (Nullable fun json value => json = .number (.ofUInt64 value)) none

namespace Part

variable {α : Type} {written written' : Json → α → Prop} {default : α} {json? : Option Json} {value : α}

/-- A part is in a form if it is absent or its document is in that form. -/
theorem iff_and {plain : Json → Bool}
    (each : ∀ json value, written json value ↔ written' json value ∧ plain json = true) :
    Part written default json? value ↔ Part written' default json? value ∧ json?.all plain = true := by
  constructor
  · intro part
    cases part with
    | absent => exact ⟨.absent, rfl⟩
    | present there => exact ⟨.present ((each _ _).1 there).1, ((each _ _).1 there).2⟩
  · rintro ⟨part, plain⟩
    cases part with
    | absent => exact .absent
    | present there => exact .present ((each _ _).2 ⟨there, plain⟩)

end Part

theorem Nullable.iff_and {α : Type} {written written' : Json → α → Prop} {plain : Json → Bool}
    (null : plain .null = true)
    (each : ∀ json value, written json value ↔ written' json value ∧ plain json = true)
    (json : Json) (value : Option α) :
    Nullable written json value ↔ Nullable written' json value ∧ plain json = true := by
  constructor
  · intro nullable
    cases nullable with
    | null => exact ⟨.null, null⟩
    | present other there =>
      exact ⟨.present other ((each _ _).1 there).1, ((each _ _).1 there).2⟩
  · rintro ⟨nullable, plain⟩
    cases nullable with
    | null => exact .null
    | present other there => exact .present other ((each _ _).2 ⟨there, plain⟩)

/-- Whether a value is an array. -/
def Json.isArray : Json → Bool
  | .array _ => true
  | _ => false

/-- Whether a value is an object. -/
def Json.isObject : Json → Bool
  | .object _ => true
  | _ => false

/-! ## Leaves -/

/-- The documents of an equality. -/
inductive Equality.Written (latitude : Latitude) : Json → Equality → Prop
  | symbol (equality : Equality) : Written latitude (.string equality.symbol) equality
  | object (equality : Equality) {content : Json} :
    latitude = .lenient → content = .null ∨ content = .object [] →
    Written latitude (.object [(equality.symbol, content)]) equality

theorem Equality.written_strict_iff (json : Json) (equality : Equality) :
    Written .strict json equality ↔ Written .lenient json equality ∧ (!json.isObject) = true := by
  constructor
  · intro written
    cases written with
    | symbol => exact ⟨.symbol _, rfl⟩
    | object => contradiction
  · rintro ⟨written, plain⟩
    cases written with
    | symbol => exact .symbol _
    | object => cases plain

/-- The documents of the options of a property leaf, its equality apart. -/
inductive PropertyOptions.Written (latitude : Latitude) : Json → PropertyOptions → Prop
  | fields {fields : List (String × Json)} {startsWith endsWith caseSensitive : Bool} :
    Flag (Json.field? "startsWith" fields) startsWith → Flag (Json.field? "endsWith" fields) endsWith →
    Flag (Json.field? "caseSensitive" fields) caseSensitive →
    Written latitude (.object fields) { startsWith, endsWith, caseSensitive }
  | items {items : List Json} {startsWith endsWith caseSensitive : Bool} :
    latitude = .lenient → items.length ≤ 3 →
    Flag items[0]? startsWith → Flag items[1]? endsWith → Flag items[2]? caseSensitive →
    Written latitude (.array items) { startsWith, endsWith, caseSensitive }

theorem PropertyOptions.written_strict_iff (json : Json) (options : PropertyOptions) :
    Written .strict json options ↔ Written .lenient json options ∧ (!json.isArray) = true := by
  constructor
  · intro written
    cases written with
    | fields starts ends cased => exact ⟨.fields starts ends cased, rfl⟩
    | items => contradiction
  · rintro ⟨written, plain⟩
    cases written with
    | fields starts ends cased => exact .fields starts ends cased
    | items => cases plain

/-- The documents of the options of a date leaf, whose one field has the given name. -/
inductive InclusiveWritten (name : String) (latitude : Latitude) : Json → Bool → Prop
  | fields {fields : List (String × Json)} {inclusive : Bool} :
    Flag (Json.field? name fields) inclusive →
    InclusiveWritten name latitude (.object fields) inclusive
  | items {items : List Json} {inclusive : Bool} :
    latitude = .lenient → items.length ≤ 1 → Flag items[0]? inclusive →
    InclusiveWritten name latitude (.array items) inclusive

theorem InclusiveWritten.strict_iff {name : String} (json : Json) (inclusive : Bool) :
    InclusiveWritten name .strict json inclusive ↔
      InclusiveWritten name .lenient json inclusive ∧ (!json.isArray) = true := by
  constructor
  · intro written
    cases written with
    | fields flag => exact ⟨.fields flag, rfl⟩
    | items => contradiction
  · rintro ⟨written, plain⟩
    cases written with
    | fields flag => exact .fields flag
    | items => cases plain

namespace LeafTag

/-- The number of a tag. -/
def number : LeafTag → Int
  | property => 0
  | datesBefore => 1
  | datesAfter => 2

/-- The name of the field that a leaf compares with. -/
def contentName (tag : LeafTag) : String := if tag = .property then "value" else "date"

/-- The documents of a tag. -/
inductive Written (latitude : Latitude) : Json → LeafTag → Prop
  | name (tag : LeafTag) : Written latitude (.string tag.name) tag
  | number (tag : LeafTag) {range} :
    latitude = .lenient → Written latitude (.number (.integer tag.number range)) tag

theorem name_injective {tag other : LeafTag} (same : tag.name = other.name) : tag = other := by
  cases tag <;> cases other <;> simp_all [name]

/-- A tag is read from its documents. -/
theorem ofJson?_eq_some_iff {json : Json} {tag : LeafTag} :
    ofJson? json = some tag ↔ Written .lenient json tag := by
  constructor
  · intro read
    match json with
    | .string text =>
      obtain rfl : tag.name = text := by simpa using List.find?_some read
      exact .name tag
    | .number (.integer value range) =>
      have numbered : value = tag.number := by
        simp only [ofJson?] at read
        split_ifs at read with first second third
        all_goals
          cases read
          assumption
      subst numbered
      exact .number tag rfl
    | .number (.double _) => cases read
    | .null | .bool _ | .array _ | .object _ => cases read
  · intro written
    cases written with
    | name => cases tag <;> decide
    | number => cases tag <;> rfl

end LeafTag

namespace Leaf

/-- The leaf of a tag and the parts that come with it. A date is whatever text the reader of dates takes,
and the parts that a tag does not have are ignored. -/
inductive Parts (latitude : Latitude) :
    LeafTag → (key content equality options : Option Json) → Leaf → Prop
  | property {key : String} {content equality? options? : Option Json} {equality : Equality}
    {options : PropertyOptions} :
    Part (Equality.Written latitude) .equal equality? equality →
    Part (PropertyOptions.Written latitude) {} options? options →
    Parts latitude .property (some (.string key)) content equality? options?
      (.property key (content.getD .null) { options with equality })
  | datesBefore {key text : String} {date : Instant} {equality? options? : Option Json}
    {inclusive : Bool} :
    Instant.ofDocument? text = some date →
    Part (InclusiveWritten "equalToAndBefore" latitude) false options? inclusive →
    Parts latitude .datesBefore (some (.string key)) (some (.string text)) equality? options?
      (.datesBefore key date inclusive)
  | datesAfter {key text : String} {date : Instant} {equality? options? : Option Json}
    {inclusive : Bool} :
    Instant.ofDocument? text = some date →
    Part (InclusiveWritten "equalToAndAfter" latitude) false options? inclusive →
    Parts latitude .datesAfter (some (.string key)) (some (.string text)) equality? options?
      (.datesAfter key date inclusive)

/-- The documents of a leaf: an object with its tag and its parts, whatever else it has, or an array that
begins with the tag. -/
inductive Written (latitude : Latitude) : Json → Leaf → Prop
  | fields {fields : List (String × Json)} {json : Json} {tag : LeafTag} {leaf : Leaf} :
    Json.field? "type" fields = some json → tag.Written latitude json →
    Parts latitude tag (Json.field? "key" fields) (Json.field? tag.contentName fields)
      (Json.field? "equalitySymbol" fields) (Json.field? "options" fields) leaf →
    Written latitude (.object fields) leaf
  | propertyItems {json : Json} {items : List Json} {leaf : Leaf} :
    latitude = .lenient → LeafTag.property.Written latitude json → items.length ≤ 4 →
    Parts latitude .property items[0]? items[1]? items[2]? items[3]? leaf →
    Written latitude (.array (json :: items)) leaf
  | dateItems {json : Json} {tag : LeafTag} {items : List Json} {leaf : Leaf} :
    latitude = .lenient → tag ≠ .property → tag.Written latitude json → items.length ≤ 3 →
    Parts latitude tag items[0]? items[1]? none items[2]? leaf →
    Written latitude (.array (json :: items)) leaf

/-- Whether the fields of a leaf are in the documented forms: a tag by its name, options that are not an
array and, where a symbol counts, one that is not an object. -/
def isPlain (fields : List (String × Json)) : Bool :=
  match Json.field? "type" fields with
  | some (.string tag) =>
    (Json.field? "options" fields).all (!·.isArray) &&
      (tag != LeafTag.property.name || (Json.field? "equalitySymbol" fields).all (!·.isObject))
  | _ => false

theorem parts_strict_iff {tag : LeafTag} {key content equality? options? : Option Json} {leaf : Leaf} :
    Parts .strict tag key content equality? options? leaf ↔
      Parts .lenient tag key content equality? options? leaf ∧ options?.all (!·.isArray) = true ∧
        (tag = .property → equality?.all (!·.isObject) = true) := by
  constructor
  · intro parts
    cases parts with
    | property equality options =>
      obtain ⟨equality, plainEquality⟩ := (Part.iff_and Equality.written_strict_iff).1 equality
      obtain ⟨options, plainOptions⟩ := (Part.iff_and PropertyOptions.written_strict_iff).1 options
      exact ⟨.property equality options, plainOptions, fun _ => plainEquality⟩
    | datesBefore date options =>
      obtain ⟨options, plain⟩ := (Part.iff_and InclusiveWritten.strict_iff).1 options
      exact ⟨.datesBefore date options, plain, nofun⟩
    | datesAfter date options =>
      obtain ⟨options, plain⟩ := (Part.iff_and InclusiveWritten.strict_iff).1 options
      exact ⟨.datesAfter date options, plain, nofun⟩
  · rintro ⟨parts, plain, plainEquality⟩
    cases parts with
    | property equality options =>
      exact .property ((Part.iff_and Equality.written_strict_iff).2 ⟨equality, plainEquality rfl⟩)
        ((Part.iff_and PropertyOptions.written_strict_iff).2 ⟨options, plain⟩)
    | datesBefore date options =>
      exact .datesBefore date ((Part.iff_and InclusiveWritten.strict_iff).2 ⟨options, plain⟩)
    | datesAfter date options =>
      exact .datesAfter date ((Part.iff_and InclusiveWritten.strict_iff).2 ⟨options, plain⟩)

/-- A leaf that is an object with a tag by its name is plain if its options and its symbol are. -/
theorem isPlain_of_tag {fields : List (String × Json)} {tag : LeafTag}
    (tagged : Json.field? "type" fields = some (.string tag.name)) :
    isPlain fields = true ↔ (Json.field? "options" fields).all (!·.isArray) = true ∧
      (tag = .property → (Json.field? "equalitySymbol" fields).all (!·.isObject) = true) := by
  have property : (tag.name = LeafTag.property.name) = (tag = .property) :=
    propext ⟨LeafTag.name_injective, congrArg LeafTag.name⟩
  simp only [isPlain, tagged, Bool.and_eq_true, Bool.or_eq_true, bne_iff_ne, ne_eq, property,
    Decidable.imp_iff_not_or]

/-- The documented forms of a leaf are the plain objects. -/
theorem written_strict_iff {json : Json} {leaf : Leaf} :
    Written .strict json leaf ↔
      Written .lenient json leaf ∧ ∃ fields, json = .object fields ∧ isPlain fields = true := by
  constructor
  · intro written
    cases written with
    | fields tagged tag parts =>
      cases tag with
      | name =>
        obtain ⟨parts, plain⟩ := parts_strict_iff.1 parts
        exact ⟨.fields tagged (.name _) parts, _, rfl, (isPlain_of_tag tagged).2 plain⟩
      | number => contradiction
    | propertyItems => contradiction
    | dateItems => contradiction
  · rintro ⟨written, fields, rfl, plain⟩
    cases written with
    | fields tagged tag parts =>
      cases tag with
      | name =>
        exact .fields tagged (.name _)
          (parts_strict_iff.2 ⟨parts, (isPlain_of_tag tagged).1 plain⟩)
      | number =>
        rw [isPlain, tagged] at plain
        cases plain

/-- A leaf that is an array begins with a tag. -/
theorem Written.head?_tag {items : List Json} {leaf : Leaf} (written : Written .lenient (.array items) leaf) :
    ∃ tag, items.head?.bind LeafTag.ofJson? = some tag := by
  cases written with
  | propertyItems _ tag => exact ⟨_, LeafTag.ofJson?_eq_some_iff.2 tag⟩
  | dateItems _ _ tag => exact ⟨_, LeafTag.ofJson?_eq_some_iff.2 tag⟩

/-- An object whose only field is null is no leaf, since that field is not the tag of one. -/
theorem not_written_null {latitude : Latitude} {name : String} {leaf : Leaf} :
    ¬ Written latitude (.object [(name, .null)]) leaf := by
  rintro (⟨tagged, tag, -⟩)
  rw [Json.field?, List.lookup_cons] at tagged
  split at tagged
  · cases tagged
    cases tag
  · cases tagged

end Leaf

/-! ## Tokens -/

namespace Token

/-- The documents of a token: the word of a link, an array of tokens, or a leaf. -/
inductive Written (latitude : Latitude) : Json → Token → Prop
  | and : Written latitude (.string "AND") .and
  | or : Written latitude (.string "OR") .or
  | andObject : latitude = .lenient → Written latitude (.object [("AND", .null)]) .and
  | orObject : latitude = .lenient → Written latitude (.object [("OR", .null)]) .or
  | group {items : List Json} {tokens : List Token} :
    List.Forall₂ (Written latitude) items tokens → Written latitude (.array items) (.group tokens)
  | leaf {json : Json} {leaf : Leaf} : leaf.Written latitude json → Written latitude json (.leaf leaf)

mutual

/-- Whether a token is in the documented forms: no array in it begins with the tag of a leaf. -/
def isPlain : Json → Bool
  | .object fields => Leaf.isPlain fields
  | .array items => (items.head?.bind LeafTag.ofJson?).isNone && listIsPlain items
  | _ => true

/-- Whether tokens are in the documented forms. -/
def listIsPlain : List Json → Bool
  | [] => true
  | item :: rest => isPlain item && listIsPlain rest

end

/-- No token is the tag of a leaf. So an array that begins with a tag is not a group. -/
theorem Written.not_tag {latitude : Latitude} {json : Json} {token : Token}
    (written : Written latitude json token) : LeafTag.ofJson? json = none := by
  cases written with
  | and | or => decide
  | andObject | orObject | group => rfl
  | leaf leaf => cases leaf <;> rfl

theorem head?_of_forall₂ {latitude : Latitude} {items : List Json} {tokens : List Token}
    (each : List.Forall₂ (Written latitude) items tokens) :
    items.head?.bind LeafTag.ofJson? = none := by
  cases each with
  | nil => rfl
  | cons first => exact first.not_tag

mutual

/-- The documented forms of a token are the plain ones. -/
theorem written_strict_iff : ∀ (json : Json) (token : Token),
    Written .strict json token ↔ Written .lenient json token ∧ isPlain json = true
  | .array items, token => by
    have each := forall₂_strict_iff items
    constructor
    · intro written
      cases written with
      | group strict =>
        obtain ⟨lenient, plain⟩ := (each _).1 strict
        refine ⟨.group lenient, ?_⟩
        rw [isPlain, head?_of_forall₂ lenient, plain]
        rfl
      | leaf leaf => cases leaf <;> contradiction
    · rintro ⟨written, plain⟩
      rw [isPlain, Bool.and_eq_true, Option.isNone_iff_eq_none] at plain
      cases written with
      | group lenient => exact .group ((each _).2 ⟨lenient, plain.2⟩)
      | leaf leaf =>
        obtain ⟨tag, tagged⟩ := leaf.head?_tag
        cases plain.1.symm.trans tagged
  | .object fields, token => by
    constructor
    · intro written
      cases written with
      | andObject | orObject => contradiction
      | leaf leaf =>
        obtain ⟨lenient, _, ⟨⟩, plain⟩ := Leaf.written_strict_iff.1 leaf
        exact ⟨.leaf lenient, plain⟩
    · rintro ⟨written, plain⟩
      cases written with
      | andObject | orObject => cases plain
      | leaf leaf => exact .leaf (Leaf.written_strict_iff.2 ⟨leaf, fields, rfl, plain⟩)
  | .string word, token => by
    constructor
    · intro written
      cases written with
      | and => exact ⟨.and, rfl⟩
      | or => exact ⟨.or, rfl⟩
      | leaf leaf => cases leaf
    · rintro ⟨written, -⟩
      cases written with
      | and => exact .and
      | or => exact .or
      | leaf leaf => cases leaf
  | .null, token | .bool _, token | .number _, token => by
    constructor
    · intro written
      cases written with
      | leaf leaf => cases leaf
    · rintro ⟨written, -⟩
      cases written with
      | leaf leaf => cases leaf

theorem forall₂_strict_iff : ∀ (items : List Json) (tokens : List Token),
    List.Forall₂ (Written .strict) items tokens ↔
      List.Forall₂ (Written .lenient) items tokens ∧ listIsPlain items = true
  | [], tokens => by simp [listIsPlain]
  | item :: rest, tokens => by
    have first := written_strict_iff item
    have others := forall₂_strict_iff rest
    simp only [List.forall₂_cons_left_iff, listIsPlain, Bool.and_eq_true, first, others]
    constructor
    · rintro ⟨token, later, ⟨written, plain⟩, ⟨each, plainRest⟩, rfl⟩
      exact ⟨⟨token, later, written, each, rfl⟩, plain, plainRest⟩
    · rintro ⟨⟨token, later, written, each, rfl⟩, plain, plainRest⟩
      exact ⟨token, later, ⟨written, plain⟩, ⟨each, plainRest⟩, rfl⟩

end

end Token

/-! ## Searches -/

/-- The documents of a direction. -/
def DirectionWritten (json : Json) (direction : Direction) : Prop :=
  ∃ word, json = .string word ∧ direction = if word = "asc" then .ascending else .descending

/-- The documents of an order. -/
inductive SortStatement.Written (latitude : Latitude) : Json → SortStatement → Prop
  | fields {fields : List (String × Json)} {key : String} {direction : Direction} :
    Json.field? "key" fields = some (.string key) →
    Part DirectionWritten .ascending (Json.field? "order" fields) direction →
    Written latitude (.object fields) ⟨key, direction⟩
  | items {key : String} {rest : List Json} {direction : Direction} :
    latitude = .lenient → rest.length ≤ 1 → Part DirectionWritten .ascending rest[0]? direction →
    Written latitude (.array (.string key :: rest)) ⟨key, direction⟩

theorem SortStatement.written_strict_iff (json : Json) (sort : SortStatement) :
    Written .strict json sort ↔ Written .lenient json sort ∧ (!json.isArray) = true := by
  constructor
  · intro written
    cases written with
    | fields key direction => exact ⟨.fields key direction, rfl⟩
    | items => contradiction
  · rintro ⟨written, plain⟩
    cases written with
    | fields key direction => exact .fields key direction
    | items => cases plain

namespace Search

/-- The documents of an order that may be absent or null. -/
def SortWritten (latitude : Latitude) : Option Json → Option SortStatement → Prop :=
  Part (Nullable (SortStatement.Written latitude)) none

/-- The documents of a search. -/
inductive Written (latitude : Latitude) : Json → Search → Prop
  | fields {fields : List (String × Json)} {items : List Json} {tokens : List Token}
    {sort : Option SortStatement} {take page : Option UInt64} :
    Json.field? "query" fields = some (.array items) →
    List.Forall₂ (Token.Written latitude) items tokens →
    SortWritten latitude (Json.field? "sort" fields) sort →
    RowNumber (Json.field? "take" fields) take → RowNumber (Json.field? "page" fields) page →
    Written latitude (.object fields) ⟨tokens, sort, take, page⟩
  | items {items rest : List Json} {tokens : List Token} {sort : Option SortStatement}
    {take page : Option UInt64} :
    latitude = .lenient → rest.length ≤ 3 → List.Forall₂ (Token.Written latitude) items tokens →
    SortWritten latitude rest[0]? sort → RowNumber rest[1]? take → RowNumber rest[2]? page →
    Written latitude (.array (.array items :: rest)) ⟨tokens, sort, take, page⟩

/-- Whether a search is in the documented forms. -/
def isPlain : Json → Bool
  | .object fields =>
    (Json.field? "sort" fields).all (!·.isArray) &&
      (match Json.field? "query" fields with
        | some (.array items) => Token.listIsPlain items
        | _ => true)
  | _ => false

/-- The documented forms of a search are the plain ones. -/
theorem written_strict_iff {json : Json} {search : Search} :
    Written .strict json search ↔ Written .lenient json search ∧ isPlain json = true := by
  have sorted {json : Option Json} {sort : Option SortStatement} :
      SortWritten .strict json sort ↔
        SortWritten .lenient json sort ∧ json.all (!·.isArray) = true :=
    Part.iff_and (Nullable.iff_and rfl SortStatement.written_strict_iff)
  constructor
  · intro written
    cases written with
    | fields query each sort take page =>
      obtain ⟨each, plain⟩ := (Token.forall₂_strict_iff _ _).1 each
      obtain ⟨sort, plainSort⟩ := sorted.1 sort
      refine ⟨.fields query each sort take page, ?_⟩
      simp [isPlain, query, plain, plainSort]
    | items => contradiction
  · rintro ⟨written, plain⟩
    cases written with
    | fields query each sort take page =>
      rw [isPlain, query, Bool.and_eq_true] at plain
      exact .fields query ((Token.forall₂_strict_iff _ _).2 ⟨each, plain.2⟩)
        (sorted.2 ⟨sort, plain.1⟩) take page
    | items => cases plain

end Search

end RecordStore
