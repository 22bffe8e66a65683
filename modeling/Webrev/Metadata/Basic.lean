import Webrev.AccessError
import Webrev.Metadata.Link
import Webrev.Metadata.Summary
import Webrev.Page.Header
import Webrev.Text.Blank

/-!
# The metadata of a webrev

What the table of an index page says about a change. Every field is read on its own: one whose label
is missing, or whose cell is not of the right form, is absent. Only a repository that is no URI
reference makes the metadata unreadable.

## Main definitions

* `Metadata` : the metadata of a webrev.
* `Metadata.ofHeader` : the metadata that a table gives.
-/

namespace Webrev

/-- The metadata of a webrev. -/
structure Metadata where
  sourceUri : Url
  branch : Option String
  author : Option String
  summary : Option Summary
  workspace : Option String
  repositoryUri : Option UriReference
  compareAgainst : Option String
  compareAgainstVersion : Option String
  compareAgainstRevision : Option String
  patchUri : Option Url
  changesetUri : Option Url
  deriving DecidableEq, Repr

namespace Metadata

/-- Who prepared a change: the first word of what the table says. -/
def author? (cell : String) : Option String := (Text.firstWord cell.toList).map String.ofList

/-- The repository that a cell names. -/
def repository (cell : String) : Except AccessError UriReference :=
  (UriReference.parse cell).mapError (.malformedLocation cell)

/-- The metadata that a table gives, apart from the repository. -/
def withRepository (header : Page.Header) (source : Url) (repositoryUri : Option UriReference) :
    Metadata where
  sourceUri := source
  branch := header.get? "Branch"
  author := (header.get? "Prepared by").bind author?
  summary := (header.get? "Summary of changes").bind Summary.parse?
  workspace := header.get? "Workspace"
  repositoryUri := repositoryUri
  compareAgainst := header.get? "Compare against"
  compareAgainstVersion := header.get? "Compare against version"
  compareAgainstRevision := header.get? "Compare against revision"
  patchUri := (header.get? "Patch of changes").bind fun cell => linkTarget? ".patch" cell source
  changesetUri := (header.get? "Changeset").bind fun cell => linkTarget? ".changeset" cell source

/-- The metadata that the table of the page at `source` gives. -/
def ofHeader (header : Page.Header) (source : Url) : Except AccessError Metadata :=
  match header.get? "Repository" with
  | none => .ok (withRepository header source none)
  | some cell => (repository cell).map fun uri => withRepository header source (some uri)

end Metadata

end Webrev
