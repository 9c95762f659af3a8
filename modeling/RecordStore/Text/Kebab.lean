import RecordStore.Text.Case
import RecordStore.Text.Letters

/-!
# Kebab case

`HTTPServer` becomes `http-server`. The letters and numerals of a text are put into lower case, and a
dash joins two of them that belong to different words: when something else stood between them, or
when the pair itself marks a border.
-/

namespace RecordStore.Text

/-- Whether a word ends between two neighbouring characters, `following` being the character after
them: a lower-case letter before a capital, a letter beside an ASCII digit, or the last capital of an
acronym before a lower-case letter. -/
def bordersWord (previous current : Char) (following : Option Char) : Bool :=
  (isLowercase previous && isUppercase current)
    || (isAlphabetic previous && current.isDigit)
    || (previous.isDigit && isAlphabetic current)
    || (isUppercase previous && isUppercase current && following.any isLowercase)

/-- Whether a dash stands before an alphanumeric character, `previous` being the last alphanumeric
character before it and `apart` saying that something else came after that one. -/
def dashBefore (previous : Option Char) (apart : Bool) (current : Char)
    (following : Option Char) : Bool :=
  match previous with
  | none => false
  | some previous => apart || bordersWord previous current following

/-- The kebab case of what follows the alphanumeric character `previous`. -/
def kebabFrom (previous : Option Char) (apart : Bool) : List Char → List Char
  | [] => []
  | c :: rest =>
    if isAlphanumeric c then
      (if dashBefore previous apart c rest.head? then ['-'] else [])
        ++ lowerCase c ++ kebabFrom (some c) false rest
    else kebabFrom previous true rest

/-- The words of a text in lower case, joined by dashes. -/
def kebabCase (text : String) : String := String.ofList (kebabFrom none false text.toList)

end RecordStore.Text
