import Webrev.Text.Numeral
import Webrev.Text.Blank

/-!
# Tables of code points

The character data of a standard, in rows over stretches of code points. A row is written as
`first-last`, or `first` alone for one code point, in hexadecimal; then a mark says how it maps its
code points: `=` to the image itself, `+` to the image moved along with the code point, and `/` the
same for every other code point from the first one on. The code points of an image are separated by
full stops. A row without a mark has the empty image, for tables that are sets.

## Main definitions

* `CodeTable.Row` : a row of a table.
* `CodeTable.read` : the rows of a table as written.
* `CodeTable.image?` : the image of a code point.
-/

namespace Webrev.CodeTable

/-- How a row maps its code points. -/
inductive Motion where
  | fixed
  | along
  | everyOther
  deriving DecidableEq, Repr

/-- A stretch of code points and their images. -/
structure Row where
  first : Nat
  last : Nat
  motion : Motion
  image : List Nat
  deriving DecidableEq, Repr

/-- The image of a code point under a row, if the row has it. -/
def Row.image? (row : Row) (n : Nat) : Option (List Nat) :=
  if row.first ≤ n ∧ n ≤ row.last then
    match row.motion with
    | .fixed => some row.image
    | .along => some (row.image.map (· + (n - row.first)))
    | .everyOther =>
      if (n - row.first) % 2 = 0 then some (row.image.map (· + (n - row.first))) else none
  else none

/-- The image of a code point under the first row that has it. -/
def image? (rows : List Row) (n : Nat) : Option (List Nat) := rows.findSome? (·.image? n)

/-- A code point is in a table. -/
def contains (rows : List Row) (n : Nat) : Bool := (image? rows n).isSome

/-! ### Tables as written -/

/-- The mark that a row is written with, if the character is one. -/
def Motion.ofMark? : Char → Option Motion
  | '=' => some .fixed
  | '+' => some .along
  | '/' => some .everyOther
  | _ => none

/-- The stretch written as `first-last` or `first`. -/
def readStretch (text : List Char) : Nat × Nat :=
  let first := Numeral.value 16 (text.takeWhile (· ≠ '-'))
  match text.dropWhile (· ≠ '-') with
  | [] => (first, first)
  | _ :: last => (first, Numeral.value 16 last)

/-- A row as written. -/
def readRow (text : List Char) : Row :=
  let isMark := fun c => (Motion.ofMark? c).isSome
  let (first, last) := readStretch (text.takeWhile fun c => !isMark c)
  match text.dropWhile fun c => !isMark c with
  | [] => ⟨first, last, .fixed, []⟩
  | mark :: image =>
    let codes := (image.splitOn '.').filter (!·.isEmpty)
    ⟨first, last, (Motion.ofMark? mark).getD .fixed, codes.map (Numeral.value 16)⟩

/-- The words of a text, the characters of the unfinished word being `pending`, last one first. -/
def wordsFrom (pending : List Char) : List Char → List (List Char)
  | [] => if pending.isEmpty then [] else [pending.reverse]
  | c :: rest =>
    if Text.isBlank c then
      if pending.isEmpty then wordsFrom [] rest else pending.reverse :: wordsFrom [] rest
    else wordsFrom (c :: pending) rest

/-- The rows of a table as written. -/
def read (table : String) : List Row := (wordsFrom [] table.toList).map readRow

end Webrev.CodeTable
