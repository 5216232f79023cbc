import Nmea.Text.Basic
import Nmea.Text.Invisible

/-!
# Quoted texts

Messages show a text between double quotes, with a backslash before the characters that would end
the quotation or hide in it, so that any text fits on one line and can be told from any other.
-/

namespace Nmea

/-- A code point in a quotation: its number in lower-case hexadecimal between braces. -/
def codePoint (c : Char) : Text :=
  ['\\', 'u', '\x7b'] ++ Nat.toDigits 16 c.toNat ++ ['\x7d']

/-- How one character is written in a quotation. -/
def quotedChar (c : Char) : Text :=
  match c with
  | '\x00' => ['\\', '0']
  | '\t'   => ['\\', 't']
  | '\r'   => ['\\', 'r']
  | '\n'   => ['\\', 'n']
  | '"'    => ['\\', '"']
  | '\\'   => ['\\', '\\']
  | c      => if isInvisible c then codePoint c else [c]

/-- A text between double quotes. -/
def quoted (t : Text) : Text := '"' :: t.flatMap quotedChar ++ ['"']

end Nmea
