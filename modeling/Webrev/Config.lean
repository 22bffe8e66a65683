import Webrev.Generation.Plan
import Webrev.Machine.Process
import Webrev.Text.Blank
import Webrev.Toml.Document

/-!
# Configuration

A file in the working directory may say how requests are made, what fetched branches are called and
how webrevs are generated. Whatever it does not say has a default. The environment may name another
generator.

## Main definitions

* `Config` : what the configuration says.
* `Config.ofText?` : the configuration that a text is.
* `Config.load` : the configuration of a machine.
* `Config.Error` : why there is none.
* `Plan.Defaults.ofProcess` : what the process says.
-/

namespace Webrev

/-- What the configuration says. -/
structure Config where
  userAgent : Option String
  fetchBranch : Option String
  command : Option String
  baseRef : Option String
  deriving DecidableEq, Repr

namespace Config

/-- Why there is no configuration. -/
inductive Error where
  | fileRead (fault : Machine.Fault)
  | parse
  deriving DecidableEq, Repr

/-- The description of a failure. -/
def Error.message : Error → String
  | .fileRead fault => "Failed to read config file: " ++ fault.message
  | .parse => "Failed to parse config file"

/-- The configuration that says nothing. -/
def empty : Config := ⟨none, none, none, none⟩

/-! ### Defaults -/

/-- The name that requests are made under. -/
def agentName (config : Config) : String :=
  config.userAgent.getD ("git-webrev/" ++ programVersion)

/-- What a fetched branch is called. -/
def branchName (config : Config) : String := config.fetchBranch.getD "WEBREV_FETCH_HEAD"

/-- The program that generates webrevs. -/
def generator (config : Config) : String := config.command.getD "webrev"

/-- What the working copy is compared against. -/
def baseName (config : Config) : String := config.baseRef.getD "origin/master"

/-! ### Reading -/

/-- The text that a value is. -/
def textOf? : Toml.Value → Option String
  | .string text => some text
  | _ => none

/-- The text of an entry, which may be missing but may not be anything else. -/
def field? (entries : Toml.Entries) (name : String) : Option (Option String) :=
  match entries.lookup name with
  | none => some none
  | some value => (textOf? value).map some

/-- The texts of a section, which is a table of named entries or an array of texts in order. A
section that is missing says nothing. -/
def section? (document : Toml.Entries) (name : String) (fields : List String) :
    Option (List (Option String)) :=
  match document.lookup name with
  | none => some (fields.map fun _ => none)
  | some (.table _ entries) => fields.mapM (field? entries)
  | some (.array items) =>
    if items.length < fields.length then none
    else (items.take fields.length).mapM fun item => (textOf? item).map some
  | some _ => none

/-- The configuration that a document is. -/
def ofDocument? (document : Toml.Entries) : Option Config := do
  let http ← section? document "http" ["user_agent"]
  let fetch ← section? document "fetch" ["branch"]
  let generate ← section? document "generate" ["command", "upstream_ref"]
  match http, fetch, generate with
  | [userAgent], [fetchBranch], [command, baseRef] =>
    some { userAgent, fetchBranch, command, baseRef }
  | _, _, _ => none

/-- The configuration that a text is. -/
def ofText? (text : List Char) : Option Config := (Toml.parse? text).bind ofDocument?

/-- The configuration in a file. -/
def ofFile (machine : Machine) (path : String) : Except Error Config :=
  match machine.tree.locateFrom machine.directory true path with
  | .error fault => .error (.fileRead fault)
  | .ok (_, .file contents _) =>
    match Utf8.decode contents with
    | .error _ => .error (.fileRead .notUtf8)
    | .ok text => ((ofText? text).map Except.ok).getD (.error .parse)
  | .ok _ => .error (.fileRead .isADirectory)

/-- The name of the configuration file. -/
def fileName : String := ".git-webrev.toml"

/-- A configuration in which the environment may name the generator. -/
def withEnvironment (config : Config) (environment : List (String × String)) : Config :=
  match (environment.lookup "GIT_WEBREV_GENERATOR").map Text.trimmed with
  | none => config
  | some command => if command.isEmpty then config else { config with command := some command }

/-- The configuration of a machine, in whose working directory the file may be missing. -/
def load (machine : Machine) (environment : List (String × String)) : Except Error Config :=
  match machine.tree.locateFrom machine.directory true fileName with
  | .error _ => .ok (empty.withEnvironment environment)
  | .ok _ => (ofFile machine fileName).map (·.withEnvironment environment)

end Config

/-- The working directory of a machine, if it is still there. -/
def Machine.workingDirectory (machine : Machine) : Except Machine.Fault String :=
  match machine.tree.node? machine.directory with
  | some _ => .ok (FilePath.ofNames machine.directory)
  | none => .error .noEntry

/-- What the process says: its directory, and its user as far as the environment names one. -/
def Plan.Defaults.ofProcess (machine : Machine) (environment : List (String × String)) :
    Except Machine.Fault Plan.Defaults :=
  machine.workingDirectory.map fun cwd =>
    ⟨cwd, ((environment.lookup "USER").or (environment.lookup "USERNAME")).filter (· ≠ "")⟩

end Webrev
