import Webrev.Text.Scan
import Webrev.Url.Parse

/-!
# Links to files

The cell of a file holds a link whose text is the name of the file. The name counts, and not the
address that the link leads to.

## Main definitions

* `Metadata.linkText?` : the text of the link to a file.
* `Metadata.linkTarget?` : the URL of the file that a cell links to.
-/

namespace Webrev.Metadata

open Scan

/-- Reads the link that a text begins with; its text, which ends in `ending`. -/
def linkAtFront? (ending text : List Char) : Option (List Char) :=
  (expect "<a href=\"".toList text).bind fun rest =>
    (longest (fun rest => (expect "\">".toList rest).bind fun rest =>
      (longest (fun rest => expect (ending ++ "</a>".toList) rest) rest).map Prod.fst) rest).map
        fun (_, name) => name ++ ending

/-- The text of the link to a file whose name ends in `ending`. -/
def linkText? (ending cell : List Char) : Option (List Char) := leftmost (linkAtFront? ending) cell

/-- The URL of the file that a cell links to, on a page at `source`. -/
def linkTarget? (ending : String) (cell : String) (source : Url) : Option Url :=
  (linkText? ending.toList cell.toList).bind fun name => (source.join (String.ofList name)).toOption

end Webrev.Metadata
