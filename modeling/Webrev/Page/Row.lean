import Webrev.Text.Blank
import Webrev.Text.Scan
import Webrev.Page.LineReader

/-!
# Rows of the metadata table

A row stands in one line. It has a label, which a colon ends, and the contents of a cell. Blanks may
stand between its parts, and a line feed at the ends of the label and of the contents. Of the rows
that a line can be read as, the first one with the longest label and then the longest contents
counts.

## Main definitions

* `Page.Row` : a label with the contents of a cell.
* `Page.Row.ofLine?` : the row in a line.
-/

namespace Webrev.Page

open Scan

/-- A label with the contents of a cell. -/
structure Row where
  label : Line
  cell : Line
  deriving DecidableEq, Repr

namespace Row

/-- Reads what follows the contents of a cell in a row. -/
def afterCell (text : List Char) : Option (List Char) :=
  (expect "</td>".toList (skipLineFeed text)).bind fun rest =>
    expect "</tr>".toList (Text.trimStart rest)

/-- Reads what follows a label in a row; the contents of the cell. -/
def afterLabel (text : List Char) : Option Line :=
  (expect ":".toList text).bind fun rest =>
    (expect "</th>".toList (skipLineFeed rest)).bind fun rest =>
      (expect "<td>".toList (Text.trimStart rest)).bind fun rest =>
        (longest afterCell (skipLineFeed rest)).map Prod.fst

/-- Reads the row that a text begins with. -/
def atFront? (text : List Char) : Option Row :=
  (expect "<tr>".toList text).bind fun rest =>
    (expect "<th>".toList (Text.trimStart rest)).bind fun rest =>
      (longest afterLabel (skipLineFeed rest)).map fun (label, cell) => ⟨label, cell⟩

/-- The row in a line. -/
def ofLine? (line : Line) : Option Row := leftmost atFront? line

end Row

end Webrev.Page
