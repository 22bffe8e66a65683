import Webrev.Generation.Plan
import Webrev.Integration
import Webrev.Report.Style

/-!
# Reports

What the program prints about a webrev and about what it did with it. Fields that are absent are left
out.

## Main definitions

* `Report.metadata` : the metadata of a webrev.
* `Report.applied`, `Report.fetched`, `Report.generated` : what was done.
-/

namespace Webrev.Report

/-- A number in decimal digits. -/
def number (n : Nat) : String := String.ofList (Numeral.decimal n)

/-- The counts of a change. -/
def summary (styled : Bool) (s : Summary) : String :=
  number s.linesChanged ++ " lines changed (" ++
    Style.green.paint styled ("+" ++ number s.insertions) ++ ", " ++
    Style.red.paint styled ("-" ++ number s.deletions) ++ ", " ++
    Style.yellow.paint styled ("~" ++ number s.modifications) ++ ")"

/-- The width of the labels. -/
def labelWidth : Nat := 26

/-- The line of a field, if it is there. -/
def field (styled : Bool) (label : String) : Option String → String
  | some value =>
    "  " ++ Style.cyan.paintPadded styled labelWidth (label ++ ":") ++ value ++ "\n"
  | none => ""

/-- The labels of the fields of the metadata, with their values. -/
def fields (styled : Bool) (m : Metadata) : List (String × Option String) :=
  [("Prepared by", m.author), ("Branch", m.branch), ("Workspace", m.workspace),
    ("Repository", m.repositoryUri.map UriReference.text),
    ("Compare against", m.compareAgainst),
    ("Compare against version", m.compareAgainstVersion),
    ("Compare against revision", m.compareAgainstRevision),
    ("Summary", m.summary.map (summary styled)),
    ("Patch", m.patchUri.map Url.text), ("Changeset", m.changesetUri.map Url.text)]

/-- The metadata of a webrev. -/
def metadata (styled : Bool) (m : Metadata) : String :=
  Style.bold.paint styled "Webrev:" ++ " " ++ m.sourceUri.text ++ "\n" ++
    String.join ((fields styled m).map fun (label, value) => field styled label value)

/-- The line of the counts of a change, if there are any. -/
def summaryLine (styled : Bool) (m : Metadata) : String :=
  match m.summary with
  | some s => "  " ++ summary styled s ++ "\n"
  | none => ""

/-- A webrev that was applied. -/
def applied (styled : Bool) (outcome : Integration.Applied) : String :=
  Style.boldGreen.paint styled "Applied" ++ " " ++ outcome.patchUri.text ++
    " to the working copy\n" ++ summaryLine styled outcome.metadata

/-- The line of the author of a change, if there is one. -/
def authorLine (m : Metadata) : String :=
  match m.author with
  | some author => "  author " ++ author ++ "\n"
  | none => ""

/-- A webrev that was fetched. -/
def fetched (styled : Bool) (outcome : Integration.Fetched) : String :=
  Style.boldGreen.paint styled "Created" ++ " branch " ++
    Style.bold.paint styled outcome.branch.name ++ " at " ++ outcome.target.commit.text ++
    " (from " ++ outcome.target.origin.text ++ ")\n" ++
    "  commit " ++ outcome.commit.text ++ "\n" ++ authorLine outcome.metadata ++
    summaryLine styled outcome.metadata

/-- A webrev that was generated. -/
def generated (styled : Bool) (plan : Plan) : String :=
  Style.boldGreen.paint styled "Generated" ++ " webrev \"" ++ plan.title ++ "\" in " ++
    plan.output ++ "\n" ++ "  compared against " ++ plan.base.text ++ "\n"

end Webrev.Report
