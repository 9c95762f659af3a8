import Mathlib.Data.List.Chain
import RecordStore.Proofs.Text.Digits
import RecordStore.Text.Kebab

/-!
# Words in kebab case

Kebab case keeps the letters and numerals of a text, each in lower case, and puts a dash between two
that follow each other exactly where a word ends between them: something else stands there, or the two
are neighbours and mark a border (`kebabCase_eq_joinedImages`). Of the tables of characters this takes
only that the lower case of a letter or numeral is not empty and has no dash, and that the dash is
neither.

A text of ASCII characters comes out as words of letters and words of digits, which are their own kebab
case (`kebabCase_kebabCase`).
-/

namespace RecordStore.Text

/-! ## The lower case of a character -/

theorem lowerCase_ne_nil (c : Char) : lowerCase c ≠ [] := by
  unfold lowerCase
  split
  · nofun
  split
  · nofun
  split <;> nofun

theorem not_isAlphanumeric_dash : isAlphanumeric '-' = false := by decide

/-- What holds of the first 128 characters holds of every ASCII character. -/
theorem forall_ascii {p : Char → Prop} (all : ∀ n < 0x80, p (Char.ofNat n)) {c : Char}
    (ascii : c.toNat < 0x80) : p c := by
  have holds := all c.toNat ascii
  rwa [Char.ofNat_toNat] at holds

theorem ne_dash_of_isAlphanumeric {c : Char} (alphanumeric : isAlphanumeric c = true) : c ≠ '-' := by
  rintro rfl
  rw [not_isAlphanumeric_dash] at alphanumeric
  cases alphanumeric

theorem image_ne_dash {stride : ShiftedStride} (member : stride ∈ lowerShifts) (c : Char) :
    stride.image c ≠ '-' := by
  have beyond : ∀ stride ∈ lowerShifts, 0x2d < stride.target := by decide +kernel
  have target := beyond stride member
  intro same
  have code : (stride.image c).toNat = 0x2d := congrArg Char.toNat same
  rw [ShiftedStride.image, Char.ofNat] at code
  by_cases valid : (stride.target + (c.toNat - stride.first)).isValidChar
  · rw [dif_pos valid] at code
    have value : stride.target + (c.toNat - stride.first) = 0x2d := code
    omega
  · rw [dif_neg valid] at code
    cases code

/-- No dash comes from putting a letter or numeral into lower case. -/
theorem dash_notMem_lowerCase {c : Char} (alphanumeric : isAlphanumeric c = true) :
    '-' ∉ lowerCase c := by
  have other := ne_dash_of_isAlphanumeric alphanumeric
  unfold lowerCase
  split
  · next ascii =>
    have kept := forall_ascii (p := fun c => c ≠ '-' → c.toLower ≠ '-') (by decide) ascii
    simpa using (kept other).symm
  split
  · decide
  split
  · next stride found =>
    simpa using (image_ne_dash (List.mem_of_find?_eq_some found) c).symm
  · simpa using other.symm

/-! ## Where words end -/

section Places

variable (text : List Char)

/-- Whether a text has a character of a kind at a place. -/
def HasAt (kind : Char → Bool) (place : Nat) : Prop := text[place]?.any kind = true

instance (kind : Char → Bool) (place : Nat) : Decidable (HasAt text kind place) :=
  inferInstanceAs (Decidable (_ = _))

/-- Whether a word ends between two alphanumeric characters of a text, given by their places, between
which there is no other: something that is not alphanumeric stands between them, or they are neighbours
and the case or the kind of character changes as it does at the border of two words. -/
def EndsWord (left right : Nat) : Prop :=
  (∃ place < right, left < place ∧ HasAt text (fun c => !isAlphanumeric c) place) ∨
    right = left + 1 ∧
      (HasAt text isLowercase left ∧ HasAt text isUppercase right ∨
        HasAt text isAlphabetic left ∧ HasAt text Char.isDigit right ∨
        HasAt text Char.isDigit left ∧ HasAt text isAlphabetic right ∨
        HasAt text isUppercase left ∧ HasAt text isUppercase right ∧
          HasAt text isLowercase (right + 1))

instance (left right : Nat) : Decidable (EndsWord text left right) :=
  inferInstanceAs (Decidable (_ ∨ _))

/-- The places of the alphanumeric characters of a text, in order. -/
def wordPlaces : List Nat := text.findIdxs isAlphanumeric

/-- The lower case of the character at a place. -/
def imageAt (place : Nat) : List Char := (text[place]?.map lowerCase).getD []

/-- The lower case of the second of two characters, with a dash in front if a word ends between
them. -/
def imageAfter (left right : Nat) : List Char :=
  (if EndsWord text left right then ['-'] else []) ++ imageAt text right

/-- The lower case of the characters at some places, with a dash between two that follow each other
where a word ends between them. -/
def joinedImages : List Nat → List Char
  | [] => []
  | first :: rest =>
    imageAt text first ++ ((first :: rest).zip rest).flatMap fun pair => imageAfter text pair.1 pair.2

end Places

/-! ## One pass over a text -/

section Pass

variable {text : List Char} {last place : Nat} {apart : Bool} {previous c : Char}

/-- Where a pass over a text stands: before a place, the last alphanumeric character having been at
another one and something else having come after it or not. -/
structure Stands (text : List Char) (last place : Nat) (apart : Bool) : Prop where
  before : last < place
  separated : apart = true ↔
    ∃ other < place, last < other ∧ HasAt text (fun c => !isAlphanumeric c) other
  adjacent : apart = false → place = last + 1

theorem Stands.afterAlphanumeric (text : List Char) (place : Nat) :
    Stands text place (place + 1) false where
  before := Nat.lt_succ_self place
  separated := by
    refine iff_of_false Bool.false_ne_true ?_
    rintro ⟨other, high, low, -⟩
    omega
  adjacent _ := rfl

theorem Stands.afterOther (stands : Stands text last place apart) (found : text[place]? = some c)
    (other : isAlphanumeric c = false) : Stands text last (place + 1) true where
  before := Nat.lt_succ_of_lt stands.before
  separated := iff_of_true rfl
    ⟨place, Nat.lt_succ_self place, stands.before, by simp [HasAt, found, other]⟩
  adjacent := nofun

/-- A pass puts a dash before an alphanumeric character exactly where a word ends. -/
theorem Stands.dashBefore_iff (stands : Stands text last place apart)
    (foundLast : text[last]? = some previous) (found : text[place]? = some c) :
    dashBefore (some previous) apart c text[place + 1]? = true ↔ EndsWord text last place := by
  rw [dashBefore, EndsWord, ← stands.separated, Bool.or_eq_true]
  refine or_congr_right' fun together => ?_
  have next := stands.adjacent (eq_false_of_ne_true together)
  simp only [next, true_and] at found ⊢
  simp [bordersWord, HasAt, foundLast, found, or_assoc, and_assoc]

/-- What a pass makes of the rest of a text, after an alphanumeric character: the images of the
alphanumeric characters there, each after the one before. -/
theorem kebabFrom_eq_flatMap (stands : Stands text last place apart)
    (foundLast : text[last]? = some previous) :
    kebabFrom (some previous) apart (text.drop place) =
      ((last :: (text.drop place).findIdxs isAlphanumeric place).zip
        ((text.drop place).findIdxs isAlphanumeric place)).flatMap
          fun pair => imageAfter text pair.1 pair.2 := by
  induction rest : text.drop place generalizing last place apart previous with
  | nil => rfl
  | cons c more ih =>
    have found : text[place]? = some c := by rw [← List.head?_drop, rest, List.head?_cons]
    have after : text.drop (place + 1) = more := by rw [← List.tail_drop, rest, List.tail_cons]
    have following : more.head? = text[place + 1]? := by rw [← after, List.head?_drop]
    rw [kebabFrom, List.findIdxs_cons]
    cases kind : isAlphanumeric c with
    | true =>
      have image : imageAt text place = lowerCase c := by simp [imageAt, found]
      have onward := ih (Stands.afterAlphanumeric text place) found after
      simp only [if_true, List.zip_cons_cons, List.flatMap_cons, onward, following,
        stands.dashBefore_iff foundLast found, imageAfter, image]
    | false =>
      exact ih (stands.afterOther found kind) foundLast after

/-- A pass that has seen no alphanumeric character yet starts with the first one. -/
theorem kebabFrom_none_eq_joinedImages (apart : Bool) (place : Nat) :
    kebabFrom none apart (text.drop place) =
      joinedImages text ((text.drop place).findIdxs isAlphanumeric place) := by
  induction rest : text.drop place generalizing place apart with
  | nil => rfl
  | cons c more ih =>
    have found : text[place]? = some c := by rw [← List.head?_drop, rest, List.head?_cons]
    have after : text.drop (place + 1) = more := by rw [← List.tail_drop, rest, List.tail_cons]
    rw [kebabFrom, List.findIdxs_cons]
    cases kind : isAlphanumeric c with
    | true =>
      have image : imageAt text place = lowerCase c := by simp [imageAt, found]
      have onward := kebabFrom_eq_flatMap (Stands.afterAlphanumeric text place) found
      rw [after] at onward
      simp [dashBefore, joinedImages, image, onward]
    | false => exact ih true (place + 1) after

end Pass

/-! ## Dashes -/

/-- Whether two characters may follow each other: no dash follows a dash. -/
def NoDoubleDash (a b : Char) : Prop := a = '-' → b ≠ '-'

theorem isChain_append_of_notMem {front back : List Char} (noDash : '-' ∉ front)
    (chain : back.IsChain NoDoubleDash) : (front ++ back).IsChain NoDoubleDash := by
  have free {a : Char} (member : a ∈ front) (b : Char) : NoDoubleDash a b := by
    rintro rfl
    exact absurd member noDash
  exact List.isChain_append.2
    ⟨(List.pairwise_of_forall_mem_list fun _ member b _ => free member b).isChain, chain,
      fun _ last b _ => free (List.mem_of_getLast? last) b⟩

/-- In kebab case no dash follows a dash. -/
theorem isChain_kebabFrom (previous : Option Char) (apart : Bool) (text : List Char) :
    (kebabFrom previous apart text).IsChain NoDoubleDash := by
  induction text generalizing previous apart with
  | nil => exact .nil
  | cons c rest ih =>
    rw [kebabFrom]
    split
    · next alphanumeric =>
      have noDash := dash_notMem_lowerCase alphanumeric
      have chain := isChain_append_of_notMem noDash (ih (some c) false)
      rw [List.append_assoc]
      split
      · -- the image of the character comes between this dash and the next one
        rw [List.singleton_append]
        refine List.isChain_cons.2 ⟨fun b first _ => ?_, chain⟩
        rw [List.head?_append_of_ne_nil _ (lowerCase_ne_nil c)] at first
        rintro rfl
        exact noDash (List.mem_of_head? first)
      · exact chain
    · exact ih previous true

theorem getLast?_kebabFrom (previous : Option Char) (apart : Bool) (text : List Char) :
    (kebabFrom previous apart text).getLast? ≠ some '-' := by
  induction text generalizing previous apart with
  | nil => nofun
  | cons c rest ih =>
    rw [kebabFrom]
    split
    · next alphanumeric =>
      intro last
      rw [List.getLast?_append] at last
      cases onward : (kebabFrom (some c) false rest).getLast? with
      | some d =>
        rw [onward] at last
        exact ih (some c) false (onward.trans last)
      | none =>
        rw [onward, Option.none_or, List.getLast?_append_of_ne_nil _ (lowerCase_ne_nil c)] at last
        exact dash_notMem_lowerCase alphanumeric (List.mem_of_getLast? last)
    · exact ih previous true

theorem head?_kebabFrom_none (apart : Bool) (text : List Char) :
    (kebabFrom none apart text).head? ≠ some '-' := by
  induction text generalizing apart with
  | nil => nofun
  | cons c rest ih =>
    rw [kebabFrom]
    split
    · next alphanumeric =>
      intro first
      simp only [dashBefore, Bool.false_eq_true, if_false, List.nil_append] at first
      rw [List.head?_append_of_ne_nil _ (lowerCase_ne_nil c)] at first
      exact dash_notMem_lowerCase alphanumeric (List.mem_of_head? first)
    · exact ih true

/-- The kebab case of a text is the lower case of its alphanumeric characters in order, with one dash
between two that follow each other exactly where a word ends between them. It has no dash at its
beginning or its end and no two dashes in a row. -/
theorem kebabCase_eq_joinedImages (text : String) :
    (kebabCase text).toList = joinedImages text.toList (wordPlaces text.toList) ∧
      (kebabCase text).toList.head? ≠ some '-' ∧ (kebabCase text).toList.getLast? ≠ some '-' ∧
      ¬ ['-', '-'] <:+: (kebabCase text).toList := by
  rw [kebabCase, String.toList_ofList]
  refine ⟨kebabFrom_none_eq_joinedImages false 0, head?_kebabFrom_none false text.toList,
    getLast?_kebabFrom none false text.toList, fun doubled => ?_⟩
  obtain ⟨front, back, parts⟩ := doubled
  have chain := isChain_kebabFrom none false text.toList
  rw [← parts, List.append_assoc] at chain
  have dashes := (List.isChain_append.1 chain).2.1
  exact (List.isChain_cons_cons.1 dashes).1 rfl rfl

/-! ## Kebab case of kebab case -/

/-- Whether two characters are lower-case letters of ASCII or both are digits. -/
def SameKind (a b : Char) : Prop :=
  a.isLower = true ∧ b.isLower = true ∨ a.isDigit = true ∧ b.isDigit = true

/-- The texts that go on from a character as words of letters and words of digits, with one dash between
two words. -/
inductive GoesOn : Char → List Char → Prop where
  | ends (c : Char) : GoesOn c []
  | inWord {c d : Char} {rest : List Char} : SameKind c d → GoesOn d rest → GoesOn c (d :: rest)
  | newWord {c d : Char} {rest : List Char} :
    SameKind d d → GoesOn d rest → GoesOn c ('-' :: d :: rest)

/-- A lower-case letter of ASCII is kept as it is and is neither a capital nor a digit. -/
theorem facts_of_isLower {c : Char} (lower : c.isLower = true) :
    isAlphanumeric c = true ∧ lowerCase c = [c] ∧ isUppercase c = false ∧ c.isDigit = false := by
  have atMost : c.val ≤ 'z'.val := of_decide_eq_true (Bool.and_eq_true_iff.1 lower).2
  have ascii : c.toNat < 0x80 := Nat.lt_of_le_of_lt (UInt32.le_iff_toNat_le.1 atMost) (by decide)
  exact forall_ascii (p := fun c => c.isLower = true → isAlphanumeric c = true ∧ lowerCase c = [c] ∧
    isUppercase c = false ∧ c.isDigit = false) (by decide) ascii lower

/-- A digit is kept as it is and is neither a capital nor a letter. -/
theorem facts_of_isDigit {c : Char} (digit : c.isDigit = true) :
    isAlphanumeric c = true ∧ lowerCase c = [c] ∧ isUppercase c = false ∧ isAlphabetic c = false := by
  have ascii : c.toNat < 0x80 := Nat.lt_of_le_of_lt (toNat_of_isDigit digit).2 (by decide)
  exact forall_ascii (p := fun c => c.isDigit = true → isAlphanumeric c = true ∧ lowerCase c = [c] ∧
    isUppercase c = false ∧ isAlphabetic c = false) (by decide) ascii digit

/-- A lower-case letter or digit is kept as it is, and no word ends before it and after its like. -/
theorem SameKind.kept {a b : Char} (same : SameKind a b) :
    isAlphanumeric b = true ∧ lowerCase b = [b] ∧
      ∀ following, bordersWord a b following = false := by
  rcases same with ⟨left, right⟩ | ⟨left, right⟩
  · obtain ⟨-, -, noCapital, noDigit⟩ := facts_of_isLower left
    obtain ⟨kind, image, capital, digit⟩ := facts_of_isLower right
    exact ⟨kind, image, fun _ => by simp [bordersWord, noCapital, noDigit, capital, digit]⟩
  · obtain ⟨-, -, noCapital, noLetter⟩ := facts_of_isDigit left
    obtain ⟨kind, image, capital, letter⟩ := facts_of_isDigit right
    exact ⟨kind, image, fun _ => by simp [bordersWord, noCapital, noLetter, capital, letter]⟩

/-- Words of letters and words of digits are their own kebab case. -/
theorem GoesOn.kebabFrom_eq {c : Char} {rest : List Char} (goesOn : GoesOn c rest) :
    kebabFrom (some c) false rest = rest := by
  induction goesOn with
  | ends c => rfl
  | inWord same _ ih =>
    obtain ⟨kind, image, together⟩ := same.kept
    simp [kebabFrom, dashBefore, kind, image, together, ih]
  | newWord same _ ih =>
    obtain ⟨kind, image, -⟩ := same.kept
    simp [kebabFrom, dashBefore, not_isAlphanumeric_dash, kind, image, ih]

/-- A letter or digit of ASCII has one character as its lower case, and remains a letter or a digit. -/
theorem lowerCase_ascii {c : Char} (ascii : c.toNat < 0x80) (alphanumeric : isAlphanumeric c = true) :
    lowerCase c = [c.toLower] ∧
      (isAlphabetic c = true ∧ c.toLower.isLower = true ∨
        c.isDigit = true ∧ c.toLower.isDigit = true) := by
  refine ⟨if_pos ascii, ?_⟩
  exact forall_ascii (p := fun c => isAlphanumeric c = true →
    isAlphabetic c = true ∧ c.toLower.isLower = true ∨
      c.isDigit = true ∧ c.toLower.isDigit = true) (by decide) ascii alphanumeric

theorem sameKind_self_of_ascii {c : Char} (ascii : c.toNat < 0x80)
    (alphanumeric : isAlphanumeric c = true) : SameKind c.toLower c.toLower :=
  (lowerCase_ascii ascii alphanumeric).2.imp (fun letter => ⟨letter.2, letter.2⟩)
    fun digit => ⟨digit.2, digit.2⟩

/-- Two characters without the border of a word between them are of the same kind. -/
theorem sameKind_of_not_bordersWord {a b : Char} {following : Option Char} (asciiLeft : a.toNat < 0x80)
    (left : isAlphanumeric a = true) (asciiRight : b.toNat < 0x80) (right : isAlphanumeric b = true)
    (together : bordersWord a b following = false) : SameKind a.toLower b.toLower := by
  simp only [bordersWord, Bool.or_eq_false_iff] at together
  obtain ⟨⟨⟨-, letterDigit⟩, digitLetter⟩, -⟩ := together
  rcases (lowerCase_ascii asciiLeft left).2 with ⟨letter, small⟩ | ⟨digit, same⟩ <;>
    rcases (lowerCase_ascii asciiRight right).2 with ⟨letter', small'⟩ | ⟨digit', same'⟩
  · exact .inl ⟨small, small'⟩
  · simp [letter, digit'] at letterDigit
  · simp [digit, letter'] at digitLetter
  · exact .inr ⟨same, same'⟩

/-- After a letter or digit, the kebab case of ASCII characters is words of letters and of digits. -/
theorem goesOn_kebabFrom {previous : Char} (asciiPrevious : previous.toNat < 0x80)
    (alphanumeric : isAlphanumeric previous = true) (apart : Bool) {text : List Char}
    (ascii : ∀ c ∈ text, c.toNat < 0x80) :
    GoesOn previous.toLower (kebabFrom (some previous) apart text) := by
  induction text generalizing previous apart with
  | nil => exact .ends _
  | cons c rest ih =>
    have asciiRest : ∀ d ∈ rest, d.toNat < 0x80 := fun d member =>
      ascii d (List.mem_cons_of_mem c member)
    have asciiHead := ascii c List.mem_cons_self
    rw [kebabFrom]
    split
    · next kind =>
      have onward := ih asciiHead kind false asciiRest
      rw [(lowerCase_ascii asciiHead kind).1]
      split
      · exact .newWord (sameKind_self_of_ascii asciiHead kind) onward
      · next noDash =>
        rw [dashBefore, Bool.or_eq_true, not_or] at noDash
        exact .inWord (sameKind_of_not_bordersWord asciiPrevious alphanumeric asciiHead kind
          (eq_false_of_ne_true noDash.2)) onward
    · exact ih asciiPrevious alphanumeric true asciiRest

/-- The kebab case of ASCII characters is empty, or a letter or digit from which words of letters and
of digits go on. -/
theorem kebabFrom_none_cases (apart : Bool) {text : List Char} (ascii : ∀ c ∈ text, c.toNat < 0x80) :
    kebabFrom none apart text = [] ∨
      ∃ c rest, kebabFrom none apart text = c :: rest ∧ SameKind c c ∧ GoesOn c rest := by
  induction text generalizing apart with
  | nil => exact .inl rfl
  | cons c rest ih =>
    have asciiRest : ∀ d ∈ rest, d.toNat < 0x80 := fun d member =>
      ascii d (List.mem_cons_of_mem c member)
    have asciiHead := ascii c List.mem_cons_self
    rw [kebabFrom]
    split
    · next kind =>
      rw [(lowerCase_ascii asciiHead kind).1]
      exact .inr ⟨c.toLower, kebabFrom (some c) false rest, rfl, sameKind_self_of_ascii asciiHead kind,
        goesOn_kebabFrom asciiHead kind false asciiRest⟩
    · exact ih true asciiRest

/-- The kebab case of an ASCII text is its own kebab case. -/
theorem kebabCase_kebabCase {text : String} (ascii : ∀ c ∈ text.toList, c.toNat < 0x80) :
    kebabCase (kebabCase text) = kebabCase text := by
  rw [kebabCase, kebabCase, String.toList_ofList]
  rcases kebabFrom_none_cases false ascii with nothing | ⟨c, rest, starts, kind, goesOn⟩
  · rw [nothing, kebabFrom]
  · obtain ⟨alphanumeric, image, -⟩ := kind.kept
    rw [starts, kebabFrom, if_pos alphanumeric, image, goesOn.kebabFrom_eq]
    rfl

/-- Separators at both ends and in a row, the end of an acronym and digits beside letters: the breaks
are made the first time and stay as they are. -/
theorem kebabCase_kebabCase_mixed :
    let text := "__HTTPServer2go--v10 "
    (∀ c ∈ text.toList, c.toNat < 0x80) ∧ kebabCase text = "http-server-2-go-v-10" ∧
      kebabCase (kebabCase text) = kebabCase text := by
  intro text
  have ascii : ∀ c ∈ text.toList, c.toNat < 0x80 := by
    simpa using (by decide : text.toList.all (fun c => decide (c.toNat < 0x80)) = true)
  exact ⟨ascii, by decide, kebabCase_kebabCase ascii⟩

end RecordStore.Text
