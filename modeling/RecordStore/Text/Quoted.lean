import RecordStore.Text.Digits
import RecordStore.Text.Printable

/-!
# Quoted text

Text between double quotes in which every character can be told apart: a quote and a backslash take
a backslash, four control characters have a letter of their own, and every other character that does
not print as itself is written by its code point.
-/

namespace RecordStore.Text

/-- One character inside quotes. -/
def quotedChar (c : Char) : List Char :=
  match c with
  | '"' => ['\\', '"']
  | '\\' => ['\\', '\\']
  | '\x00' => ['\\', '0']
  | '\t' => ['\\', 't']
  | '\n' => ['\\', 'n']
  | '\r' => ['\\', 'r']
  | c => if isPrintable c then [c] else ['\\', 'u', '{'] ++ hexDigits c.toNat ++ ['}']

/-- A text in quotes. -/
def quoted (text : String) : String :=
  String.ofList ('"' :: text.toList.flatMap quotedChar ++ ['"'])

end RecordStore.Text
