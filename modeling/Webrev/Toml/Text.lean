import Webrev.Text.Numeral

/-!
# Strings in TOML

A string stands between quotes, in one line or, between three quotes, in several. Between double
quotes a backslash begins an escape; between single quotes everything stands for itself.

## Main definitions

* `Toml.Reader` : reads something at the front of a text.
* `Toml.Delimiter` : what a string stands between.
* `Toml.string?` : reads a string.
-/

namespace Webrev.Toml

/-- Reads something at the front of a text, and gives what follows it. -/
abbrev Reader (α : Type) := List Char → Option (α × List Char)

/-- What a string stands between: one mark, or three of them. -/
structure Delimiter where
  mark : Char
  long : Bool
  deriving DecidableEq, Repr

/-- Where a reader stands in a string: at ordinary characters, after some marks in a row, after the
backslash of an escape, among the hexadecimal digits of one, after a backslash and blanks at the end
of a line, among the blanks that follow such a line end, or after a carriage return. -/
inductive Place where
  | plain
  | marks (count : Nat)
  | escape
  | digits (left value : Nat)
  | trailing
  | skipping
  | carriageReturn (skip : Bool)
  deriving DecidableEq, Repr

/-- A character that a string may hold as it is. -/
def isTextChar (c : Char) : Bool := c == '\t' || (0x20 ≤ c.toNat && c.toNat != 0x7F)

/-- A number is that of a character. -/
def isScalar (n : Nat) : Bool := n < 0xD800 || (0xE000 ≤ n && n < 0x110000)

/-- The effect of an ordinary character: what it stands for, and where the reader stands after it. -/
def Delimiter.plainStep (d : Delimiter) (c : Char) : Option (List Char × Place) :=
  if c = d.mark then if d.long then some ([], .marks 1) else none
  else if c = '\\' ∧ d.mark = '"' then some ([], .escape)
  else if c = '\n' ∧ d.long then some (['\n'], .plain)
  else if c = '\r' ∧ d.long then some ([], .carriageReturn false)
  else if isTextChar c then some ([c], .plain)
  else none

/-- The effect of the character after a backslash. -/
def Delimiter.escapeStep (d : Delimiter) (c : Char) : Option (List Char × Place) :=
  match c with
  | 'b' => some (['\x08'], .plain)
  | 't' => some (['\t'], .plain)
  | 'n' => some (['\n'], .plain)
  | 'f' => some (['\x0C'], .plain)
  | 'r' => some (['\r'], .plain)
  | '"' => some (['"'], .plain)
  | '\\' => some (['\\'], .plain)
  | 'u' => some ([], .digits 4 0)
  | 'U' => some ([], .digits 8 0)
  | ' ' | '\t' => if d.long then some ([], .trailing) else none
  | '\n' => if d.long then some ([], .skipping) else none
  | '\r' => if d.long then some ([], .carriageReturn true) else none
  | _ => none

/-- The effect of a hexadecimal digit of an escape. -/
def digitStep (left value : Nat) (c : Char) : Option (List Char × Place) :=
  match Numeral.digit? 16 c with
  | none => none
  | some d =>
    let value := value * 16 + d
    if 1 < left then some ([], .digits (left - 1) value)
    else if isScalar value then some ([Char.ofNat value], .plain)
    else none

/-- The effect of a character. -/
def Delimiter.step (d : Delimiter) (place : Place) (c : Char) : Option (List Char × Place) :=
  match place with
  | .plain => d.plainStep c
  | .marks count =>
    if c = d.mark then some ([], .marks (count + 1))
    else (d.plainStep c).map fun (text, next) => (List.replicate count d.mark ++ text, next)
  | .escape => d.escapeStep c
  | .digits left value => digitStep left value c
  | .trailing =>
    if c = ' ' ∨ c = '\t' then some ([], .trailing)
    else if c = '\n' then some ([], .skipping)
    else if c = '\r' then some ([], .carriageReturn true)
    else none
  | .skipping =>
    if c = ' ' ∨ c = '\t' ∨ c = '\n' then some ([], .skipping)
    else if c = '\r' then some ([], .carriageReturn true)
    else d.plainStep c
  | .carriageReturn skip =>
    if c = '\n' then some (if skip then ([], .skipping) else (['\n'], .plain)) else none

/-- What ends a string before a character or the end of the text, as the marks that still belong to
it. A string between three marks may end in two more. -/
def Delimiter.ending? (d : Delimiter) (place : Place) (next : Option Char) : Option (List Char) :=
  match place with
  | .marks count =>
    if 3 ≤ count ∧ (next ≠ some d.mark ∨ count = 5) then some (List.replicate (count - 3) d.mark)
    else none
  | _ => none

/-- Reads a string from a place within it on. -/
def Delimiter.readFrom (d : Delimiter) (place : Place) : Reader (List Char)
  | [] => (d.ending? place none).map fun text => (text, [])
  | c :: rest =>
    if d.long = false ∧ place = .plain ∧ c = d.mark then some ([], rest)
    else
      match d.ending? place (some c) with
      | some text => some (text, c :: rest)
      | none =>
        match d.step place c with
        | none => none
        | some (text, next) =>
          match d.readFrom next rest with
          | none => none
          | some (more, rest) => some (text ++ more, rest)

/-- A text without the line end at its front. -/
def skipLineEnd : List Char → List Char
  | '\n' :: rest => rest
  | '\r' :: '\n' :: rest => rest
  | text => text

/-- Reads a string of one line. -/
def shortString? : Reader (List Char)
  | '"' :: rest => Delimiter.readFrom ⟨'"', false⟩ .plain rest
  | '\'' :: rest => Delimiter.readFrom ⟨'\'', false⟩ .plain rest
  | _ => none

/-- Reads a string. A line end right after three marks does not belong to it. -/
def string? : Reader (List Char)
  | '"' :: '"' :: '"' :: rest => Delimiter.readFrom ⟨'"', true⟩ .plain (skipLineEnd rest)
  | '\'' :: '\'' :: '\'' :: rest => Delimiter.readFrom ⟨'\'', true⟩ .plain (skipLineEnd rest)
  | text => shortString? text

end Webrev.Toml
