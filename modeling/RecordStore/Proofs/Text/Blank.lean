import RecordStore.Proofs.Text.Digits
import RecordStore.Text.Blank

/-!
# Texts without blanks at their ends

Trimming leaves a text alone that neither begins nor ends with a blank, and takes away all blanks that
stand around it.
-/

namespace RecordStore.Text

theorem isBlank_of_isDigit {c : Char} (digit : c.isDigit = true) : isBlank c = false := by
  have range := toNat_of_isDigit digit
  simp only [isBlank, Ranges.contains, blankRanges, List.any_cons, List.any_nil,
    Bool.or_false, Bool.or_eq_false_iff, Bool.and_eq_false_iff, decide_eq_false_iff_not]
  omega

theorem trimStart_of_head {text : List Char} (head : ∀ c ∈ text.head?, isBlank c = false) :
    trimStart text = text := by
  cases text with
  | nil => rfl
  | cons c rest => rw [trimStart, List.dropWhile_cons, if_neg (by simp [head c rfl])]

theorem trimEnd_of_getLast {text : List Char} (last : ∀ c ∈ text.getLast?, isBlank c = false) :
    trimEnd text = text := by
  have head : ∀ c ∈ text.reverse.head?, isBlank c = false := by rwa [List.head?_reverse]
  have same := trimStart_of_head head
  rw [trimStart] at same
  rw [trimEnd, same, List.reverse_reverse]

theorem trim_of_ends {text : List Char} (head : ∀ c ∈ text.head?, isBlank c = false)
    (last : ∀ c ∈ text.getLast?, isBlank c = false) : trim text = text := by
  rw [trim, trimStart_of_head head, trimEnd_of_getLast last]

/-- There is a last character, and it is no blank. -/
def EndsSolid (text : List Char) : Prop := ∃ c, text.getLast? = some c ∧ isBlank c = false

theorem EndsSolid.append {text : List Char} (ends : EndsSolid text) (front : List Char) :
    EndsSolid (front ++ text) := by
  obtain ⟨c, last, solid⟩ := ends
  exact ⟨c, by rw [List.getLast?_append, last, Option.some_or], solid⟩

theorem endsSolid_paddedDigits (width n : Nat) : EndsSolid (paddedDigits width n) := by
  have last := List.getLast?_eq_some_getLast (paddedDigits_ne_nil width n)
  exact ⟨_, last, isBlank_of_isDigit (isDigit_of_mem_paddedDigits (List.mem_of_getLast? last))⟩

theorem trimEnd_append_blanks {after : List Char} (blank : ∀ c ∈ after, isBlank c = true)
    (text : List Char) : trimEnd (text ++ after) = trimEnd text := by
  have reversed : ∀ c ∈ after.reverse, isBlank c = true := fun c member =>
    blank c (List.mem_reverse.1 member)
  rw [trimEnd, trimEnd, List.reverse_append, List.dropWhile_append_of_pos reversed]

/-- Blanks around a text do not matter. -/
theorem trim_append_blanks {before after : List Char} (blankBefore : ∀ c ∈ before, isBlank c = true)
    (blankAfter : ∀ c ∈ after, isBlank c = true) (text : List Char) :
    trim (before ++ text ++ after) = trim text := by
  have afterOnly : after.dropWhile isBlank = [] := by
    rw [← List.append_nil after]
    exact List.dropWhile_append_of_pos blankAfter
  rw [trim, trim, trimStart, trimStart, List.append_assoc, List.dropWhile_append_of_pos blankBefore,
    List.dropWhile_append]
  split
  · next blank => rw [afterOnly, List.isEmpty_iff.1 blank]
  · exact trimEnd_append_blanks blankAfter _

end RecordStore.Text
