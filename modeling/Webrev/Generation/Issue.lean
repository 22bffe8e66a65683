import Webrev.Text.Numeral
import Webrev.Text.Scan
import Webrev.Text.Upper

/-!
# Issues

A change belongs to an issue, which has a page in the issue tracker. The issue is given on the
command line, in full or in short, or by the name of a branch.

## Main definitions

* `Issue.ofFlag` : the page of the issue that the command line names.
* `Issue.ofBranch?` : the page of the issue that a branch is named after.
-/

namespace Webrev.Issue

/-- Where the pages of issues are. -/
def tracker : String := "https://bugs.openjdk.java.net/browse/"

/-- The projects whose issues branches are named after. -/
def projects : List (List Char) := ["JDK".toList, "CODETOOLS".toList, "JMC".toList]

/-- The page of the issue that the command line names. A number alone is an issue of the first
project. -/
def ofFlag (flag : String) : String :=
  if "http".toList.isPrefixOf flag.toList then flag
  else if flag.toList.head?.any (Numeral.isDigit 10) then tracker ++ "JDK-" ++ flag
  else tracker ++ flag

/-- The page of an issue of a project. -/
def page (project number : List Char) : String :=
  tracker ++ String.ofList project ++ "-" ++ String.ofList number

/-- Reads the project that a name begins with, and the hyphen after it. -/
def project? (name : List Char) : Option (List Char × List Char) :=
  projects.findSome? fun project =>
    (Scan.expect (project ++ ['-']) name).map fun rest => (project, rest)

/-- The digits that a text begins with. -/
def number (text : List Char) : List Char := text.takeWhile (Numeral.isDigit 10)

/-- The project and the number that a name in upper case begins with. Without a project, the number
is one of the first project. -/
def ofName? (name : List Char) : Option (List Char × List Char) :=
  if name.contains '\n' then none
  else
    let (project, rest) := (project? name).getD ("JDK".toList, name)
    if (number rest).isEmpty then none else some (project, number rest)

/-- The page of the issue that a branch is named after. -/
def ofBranch? (branch : String) : Option String :=
  (ofName? (Text.upper branch.toList)).map fun (project, number) => page project number

end Webrev.Issue
