/-!
# Styled text

Text for a terminal, which may be bold or coloured. Where styles are switched off, the text stands
alone.

## Main definitions

* `Style` : a style.
* `Style.paint` : a text in a style.
-/

namespace Webrev

/-- A style, as the sequence that switches it on. -/
structure Style where
  codes : String
  deriving DecidableEq, Repr

namespace Style

/-- Bold text. -/
def bold : Style := ⟨"1"⟩

/-- Red text. -/
def red : Style := ⟨"31"⟩

/-- Green text. -/
def green : Style := ⟨"32"⟩

/-- Yellow text. -/
def yellow : Style := ⟨"33"⟩

/-- Cyan text. -/
def cyan : Style := ⟨"36"⟩

/-- Bold green text. -/
def boldGreen : Style := ⟨"1;32"⟩

/-- The sequence that switches a style on. -/
def start (style : Style) : List Char := "\x1b[".toList ++ style.codes.toList ++ ['m']

/-- A text in which a style is switched on again wherever the text switches all styles off. -/
def restarted (style : Style) : List Char → List Char
  | '\x1b' :: '[' :: '0' :: 'm' :: rest => "\x1b[0m".toList ++ style.start ++ restarted style rest
  | c :: rest => c :: restarted style rest
  | [] => []

/-- A text with blanks behind it, up to a width. -/
def padded (width : Nat) (text : List Char) : List Char :=
  text ++ List.replicate (width - text.length) ' '

/-- A text in a style, padded to a width. -/
def paintPadded (style : Style) (styled : Bool) (width : Nat) (text : String) : String :=
  String.ofList
    (if styled then
      style.start ++ padded width (restarted style text.toList) ++ "\x1b[0m".toList
    else padded width text.toList)

/-- A text in a style. -/
def paint (style : Style) (styled : Bool) (text : String) : String := paintPadded style styled 0 text

end Style

end Webrev
