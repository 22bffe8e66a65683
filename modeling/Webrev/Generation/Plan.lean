import Webrev.FileTree.Path
import Webrev.Generation.Issue
import Webrev.Setting
import Webrev.Target

/-!
# Plans

What a webrev is made from: the commit that the working copy is compared against, where the webrev
goes, and what it says about itself. Each of these is taken from the command line, from the
configuration of the repository, or from the process, in this order.

## Main definitions

* `Plan` : what a webrev is made from.
* `Plan.Options`, `Plan.Defaults` : what the command line and the process say.
* `Plan.make` : the plan of a webrev.
-/

namespace Webrev

/-- What a webrev is made from. -/
structure Plan where
  base : CommitHash
  output : String
  title : String
  repository : Option String
  username : Option String
  issue : Option String
  version : String
  deriving DecidableEq, Repr

/-- The version of this program. -/
def programVersion : String := "0.1.0"

namespace Plan

/-- What the command line says. -/
structure Options where
  rev : Option String
  output : Option String
  username : Option String
  repository : Option String
  title : Option String
  cr : Option String
  noOutgoing : Bool
  deriving DecidableEq, Repr

/-- What the process says: its directory and its user. -/
structure Defaults where
  cwd : String
  userName : Option String
  deriving DecidableEq, Repr

/-- Why there is no plan. -/
inductive Error where
  | resolve (error : ResolveError)
  | repository (error : RepositoryError)
  deriving DecidableEq, Repr

/-- The description of a failure. -/
def Error.message : Error → String
  | .resolve error => error.message
  | .repository error => error.message

/-! ### Names in URLs -/

/-- The published repository that a remote URL stands for. -/
def publishedAs? (pullPath : String) : Option String :=
  match Url.parse pullPath with
  | .error _ => none
  | .ok url =>
    if url.hostText = some "github.com" ∧ "/openjdk/".toList.isPrefixOf url.path.toList then
      some ("https://github.com" ++ url.path)
    else if url.hostText = some "openjdk.java.net" then
      some ("https://openjdk.java.net" ++ url.path)
    else none

/-- The last segment of the path of a URL that is not empty. -/
def lastSegment? (uri : String) : Option String :=
  match Url.parse uri with
  | .error _ => none
  | .ok url =>
    url.pathSegments.bind fun segments =>
      ((segments.filter (· ≠ [])).getLast?).map String.ofList

/-- What follows the last slash of a text, if that is something. -/
def afterSlash? (text : String) : Option String :=
  if text.toList.contains '/' then
    match (text.toList.reverse.takeWhile (· ≠ '/')).reverse with
    | [] => none
    | rest => some (String.ofList rest)
  else none

/-- The title of a webrev: the one asked for, else the name of the issue, else that of the published
repository, else that of the working directory. -/
def titleOf (title issue repository : Option String) (cwd : String) : String :=
  (title.or ((issue.bind lastSegment?).or
    ((repository.bind afterSlash?).or (FilePath.fileName? cwd)))).getD ""

/-! ### Making a plan -/

/-- The values that switch a setting on, in any case of their letters. -/
def isEnabled (value : String) : Bool :=
  ["TRUE".toList, "ON".toList, "1".toList, "ENABLED".toList].contains (Text.upper value.toList)

/-- Where a webrev goes when nothing says so. -/
def defaultOutput : String := "webrev"

variable {ω : Type}

/-- A setting of the plan. -/
def readSetting (queries : Queries ω) (flag : Option String) (name : String) :
    Attempt ω Error (Option String) :=
  (queries.setting flag name).mapError .repository

/-- The published repository. -/
def readRepository (queries : Queries ω) (options : Options) : Attempt ω Error (Option String) := do
  match ← readSetting queries options.repository "repository" with
  | some repository => return some repository
  | none =>
    let pullPath : Option String ← (queries.query (.pullPath "origin")).mapError .repository
    return pullPath.bind publishedAs?

/-- The remote is not compared against. -/
def readNoOutgoing (queries : Queries ω) (options : Options) : Attempt ω Error Bool := do
  if options.noOutgoing then return true
  else
    let values : List String ←
      (queries.query (.config (Setting.key "no-outgoing"))).mapError .repository
    return (Setting.theOnly values).any isEnabled

/-- The commit that the working copy is compared against. -/
def readBase (queries : Queries ω) (options : Options) (baseRef : String) :
    Attempt ω Error CommitHash := do
  let isLocal ← readNoOutgoing queries options
  (queries.commitOf (options.rev.getD (if isLocal then "HEAD" else baseRef))).mapError .resolve

/-- The page of the issue. -/
def readIssue (queries : Queries ω) (options : Options) : Attempt ω Error (Option String) := do
  match options.cr with
  | some flag => return some (Issue.ofFlag flag)
  | none =>
    let branch : Option Branch ← (queries.query .currentBranch).mapError .repository
    return branch.bind fun branch => Issue.ofBranch? branch.name

/-- Who makes the webrev. -/
def readUsername (queries : Queries ω) (options : Options) (defaults : Defaults) :
    Attempt ω Error (Option String) := do
  match ← readSetting queries options.username "username" with
  | some name => return some name
  | none =>
    let name : Option String ← (queries.query .username).mapError .repository
    return name.or defaults.userName

/-- The plan of a webrev, which is compared against `baseRef` when nothing else is said. -/
def make (queries : Queries ω) (options : Options) (baseRef : String) (defaults : Defaults) :
    Attempt ω Error Plan := do
  let repository ← readRepository queries options
  let base ← readBase queries options baseRef
  let issue ← readIssue queries options
  let output ← readSetting queries options.output "output"
  let username ← readUsername queries options defaults
  return {
    base
    output := FilePath.join defaults.cwd (output.getD defaultOutput)
    title := titleOf options.title issue repository defaults.cwd
    repository
    username
    issue
    version := programVersion }

end Plan

end Webrev
