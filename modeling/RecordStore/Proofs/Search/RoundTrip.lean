import RecordStore.Proofs.Search.Acceptance
import RecordStore.Proofs.Time.Document

/-!
# Searches come back from their documents

Whatever a search is, also one that cannot be compiled, it is written in the documented form that stands
for it. So it is read back from there (`Search.written_and_read_back`).
-/

namespace RecordStore

/-! ## Leaves -/

theorem PropertyOptions.written_toJson (latitude : Latitude) (options : PropertyOptions) :
    Written latitude options.toJson { options with equality := .equal } :=
  .fields (.present rfl) (.present rfl) (.present rfl)

theorem InclusiveWritten.single (latitude : Latitude) (name : String) (inclusive : Bool) :
    InclusiveWritten name latitude (.object [(name, .bool inclusive)]) inclusive :=
  .fields (by
    rw [Json.field?, List.lookup_cons, beq_self_eq_true]
    exact .present rfl)

namespace Leaf

theorem written_toJson (latitude : Latitude) (leaf : Leaf) : Written latitude leaf.toJson leaf := by
  cases leaf with
  | property key value options =>
    -- The equality stands beside the options in the document, so the two are put together again.
    have parts := @Parts.property latitude key (some value) _ _ _ _ (.present (.symbol options.equality))
      (.present (options.written_toJson latitude))
    exact .fields rfl (.name .property) parts
  | datesBefore key date inclusive =>
    exact .fields rfl (.name .datesBefore)
      (.datesBefore date.ofDocument?_toFullText (.present (.single latitude _ inclusive)))
  | datesAfter key date inclusive =>
    exact .fields rfl (.name .datesAfter)
      (.datesAfter date.ofDocument?_toFullText (.present (.single latitude _ inclusive)))

end Leaf

/-! ## Tokens -/

namespace Token

mutual

theorem written_toJson (latitude : Latitude) : ∀ token : Token, Written latitude token.toJson token
  | .leaf value => .leaf (value.written_toJson latitude)
  | .and => .and
  | .or => .or
  | .group tokens => .group (forall₂_listToJson latitude tokens)

theorem forall₂_listToJson (latitude : Latitude) :
    ∀ tokens : List Token, List.Forall₂ (Written latitude) (listToJson tokens) tokens
  | [] => .nil
  | token :: rest => .cons (written_toJson latitude token) (forall₂_listToJson latitude rest)

end

end Token

/-! ## Searches -/

theorem SortStatement.written_toJson (latitude : Latitude) (sort : SortStatement) :
    Written latitude sort.toJson sort := by
  obtain ⟨key, direction⟩ := sort
  refine .fields rfl (.present ⟨_, rfl, ?_⟩)
  cases direction <;> rfl

namespace Search

theorem field?_append (name : String) (fields more : List (String × Json)) :
    Json.field? name (fields ++ more) = (Json.field? name fields).or (Json.field? name more) :=
  List.lookup_append

theorem field?_cons (name other : String) (value : Json) (rest : List (String × Json)) :
    Json.field? name ((other, value) :: rest) =
      if name = other then some value else Json.field? name rest := by
  simp only [Json.field?, List.lookup_cons]
  split <;> simp_all

theorem field?_optionalField (name other : String) (value : Option Json) :
    Json.field? name (optionalField other value) = if name = other then value else none := by
  cases value with
  | none => simp [optionalField, Json.field?]
  | some value => exact field?_cons name other value []

theorem rowNumber_map (number : Option UInt64) :
    RowNumber (number.map fun value => .number (.ofUInt64 value)) number := by
  cases number with
  | none => exact .absent
  | some value => exact .present (.present nofun rfl)

theorem sortWritten_map (latitude : Latitude) (sort : Option SortStatement) :
    SortWritten latitude (sort.map SortStatement.toJson) sort := by
  cases sort with
  | none => exact .absent
  | some sort => exact .present (.present nofun (sort.written_toJson latitude))

/-- A search is written as one of its documents, with the fields that have no value left out. -/
theorem written_toJson (latitude : Latitude) (search : Search) :
    Written latitude search.toJson search := by
  obtain ⟨tokens, sort, take, page⟩ := search
  refine .fields ?_ (Token.forall₂_listToJson latitude tokens) ?_ ?_ ?_
  · simp [field?_append, field?_cons, field?_optionalField]
  · simpa [field?_append, field?_cons, field?_optionalField] using sortWritten_map latitude sort
  · simpa [field?_append, field?_cons, field?_optionalField] using rowNumber_map take
  · simpa [field?_append, field?_cons, field?_optionalField] using rowNumber_map page

/-- Every search comes back from its document, which has the documented form. So what a document is read
as is written the same way whenever it is read again: the document of a search is its normal form. -/
theorem written_and_read_back :
    (∀ search : Search, Written .strict search.toJson search ∧ ofJson search.toJson = .ok search) ∧
    ∀ json : Json, (toJson <$> ofJson json) >>= (fun written => toJson <$> ofJson written) =
      toJson <$> ofJson json := by
  have readBack (search : Search) : ofJson search.toJson = .ok search :=
    ofJson_eq_ok_iff.2 (search.written_toJson .lenient)
  refine ⟨fun search => ⟨search.written_toJson .strict, readBack search⟩, fun json => ?_⟩
  cases ofJson json with
  | error error => rfl
  | ok search => exact congrArg (toJson <$> ·) (readBack search)

end Search

end RecordStore
