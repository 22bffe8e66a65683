import Webrev.Text.Blank
import Webrev.Text.Numeral

/-!
# Characters in messages

How a message shows a character that a text should not hold.

## Main definitions

* `Text.isControl` : the control characters.
* `Text.quoted` : a character between single quotes, spelled out where it has no shape.
-/

namespace Webrev.Text

/-- The control characters. -/
def isControl (c : Char) : Bool :=
  c.toNat < 0x20 || (0x7F ≤ c.toNat && c.toNat < 0xA0)

/-- A character as the number of its code point. -/
def codePointEscape (c : Char) : List Char :=
  "\\u\x7b".toList ++ Numeral.hexadecimal c.toNat ++ "\x7d".toList

/-- A character as it stands between quotes: controls and blanks other than the space have no shape
and are spelled out, and so are the backslash and the single quote. -/
def escaped (c : Char) : List Char :=
  match c with
  | '\x00' => "\\0".toList
  | '\t' => "\\t".toList
  | '\n' => "\\n".toList
  | '\r' => "\\r".toList
  | '\\' => "\\\\".toList
  | '\'' => "\\'".toList
  | ' ' => [' ']
  | c => if isControl c || isBlank c then codePointEscape c else [c]

/-- A character between single quotes, spelled out where it has no shape. -/
def quoted (c : Char) : String := String.ofList ('\'' :: escaped c ++ ['\''])

end Webrev.Text
