import Georef.Text.Hexadecimal
import Georef.Text.Printable

/-!
# Quoted text

A text inside a message is put in double quotes. A quote, a backslash and the common control
characters are escaped by a backslash and a letter, every other character that would not show by
its code point in hexadecimal.
-/

namespace Georef.Text

/-- A character as it stands inside quotes. -/
def escape (c : Char) : List Char :=
  match c with
  | '\x00' => ['\\', '0']
  | '\t' => ['\\', 't']
  | '\r' => ['\\', 'r']
  | '\n' => ['\\', 'n']
  | '"' => ['\\', '"']
  | '\\' => ['\\', '\\']
  | c => if shows c then [c] else ['\\', 'u', '\x7b'] ++ hexDigits c.toNat ++ ['\x7d']

/-- The text in quotes. -/
def quoted (text : String) : String :=
  String.ofList ('"' :: text.toList.flatMap escape ++ ['"'])

end Georef.Text
