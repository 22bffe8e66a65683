import Webrev.CommandLine.Command
import Webrev.Config
import Webrev.Generation.Generate
import Webrev.Http.Download
import Webrev.Report.Json
import Webrev.Report.Text
import Webrev.Repository.Git

/-!
# The program

A run of the program: its arguments are read, its configuration is loaded, and the command is carried
out on a machine and a network.

## Main definitions

* `Program.World` : the machine and the network that a run acts on.
* `Program.Outcome` : the status of a run and what it prints.
* `Program.run` : a run.
-/

namespace Webrev.Program

/-- The machine and the network that a run acts on. -/
structure World where
  machine : Machine
  session : Http.Session
  deriving DecidableEq, Repr

namespace World

/-- A world with another machine. -/
def setMachine (machine : Machine) (world : World) : World := { world with machine }

/-- A world with another network. -/
def setSession (session : Http.Session) (world : World) : World := { world with session }

end World

/-- The status of a run and what it prints. -/
structure Outcome where
  code : Nat
  text : String
  deriving DecidableEq, Repr

/-- Why a command was not carried out. -/
inductive Error where
  | config (error : Config.Error)
  | system (fault : Machine.Fault)
  | access (error : AccessError)
  | repository (error : RepositoryError)
  | integration (error : Integration.Error)
  | generation (error : Generation.Error)
  deriving DecidableEq, Repr

/-- The description of a failure. -/
def Error.message : Error → String
  | .config error => error.message
  | .system fault => fault.message
  | .access error => error.message
  | .repository error => error.message
  | .integration error => error.message
  | .generation error => error.message

/-- Styles are used where the environment asks for them, and not merely where it does not forbid
them, since what is printed is not read on a terminal. -/
def isStyled (environment : List (String × String)) : Bool :=
  (environment.lookup "CLICOLOR_FORCE").any (· ≠ "0")

/-- What the process and the configuration file say. -/
structure Surroundings where
  config : Config
  defaults : Plan.Defaults
  styled : Bool
  deriving DecidableEq, Repr

/-- What the process and the configuration file say. -/
def surroundings (environment : List (String × String)) : Attempt World Error Surroundings := do
  let machine := (← get).machine
  let config ← Attempt.ofExcept ((Config.load machine environment).mapError .config)
  let defaults ←
    Attempt.ofExcept ((Plan.Defaults.ofProcess machine environment).mapError .system)
  return ⟨config, defaults, isStyled environment⟩

/-- The client that the configuration asks for. -/
def openClient (s : Surroundings) : Attempt World Error (Client World) := do
  let client ← Attempt.ofExcept ((Http.client? s.config.agentName).mapError .access)
  return client.zoom World.session World.setSession

/-- The root of the working copy that the working directory lies in. -/
def discover (s : Surroundings) : Attempt World Error String :=
  ((Git.discover s.defaults.cwd).zoom World.machine World.setMachine).mapError .repository

/-- The repository of a working copy. -/
def repositoryAt (root : String) : Repository World :=
  (Git.repository root).zoom World.machine World.setMachine

/-- A generated webrev, reported. -/
def generate (s : Surroundings) (options : Plan.Options) : Attempt World Error String := do
  let root ← discover s
  let generator := fun plan =>
    Attempt.zoom World.machine World.setMachine
      (ExceptT.mk (Generation.external s.config.generator root plan))
  let plan ← Attempt.mapError .generation
    (Generation.generate World.machine World.setMachine (repositoryAt root).toQueries generator
      options s.config.baseName s.defaults)
  return Report.generated s.styled plan

/-- An applied webrev, reported. -/
def apply (s : Surroundings) (url : String) : Attempt World Error String := do
  let root ← discover s
  let client ← openClient s
  let outcome ← (Integration.apply client (repositoryAt root) url).mapError .integration
  return Report.applied s.styled outcome

/-- A fetched webrev, reported. -/
def fetch (s : Surroundings) (url : String) (branch reference : Option String) :
    Attempt World Error String := do
  let root ← discover s
  let client ← openClient s
  let request : Integration.Request := ⟨url, branch.getD s.config.branchName, reference⟩
  let outcome ← (Integration.fetch client (repositoryAt root) request).mapError .integration
  return Report.fetched s.styled outcome

/-- The metadata of a webrev, reported. -/
def show? (s : Surroundings) (url : String) (json : Bool) : Attempt World Error String := do
  let client ← openClient s
  let metadata ← (Integration.metadataAt client url).mapError .integration
  return if json then Report.Json.metadata metadata ++ "\n" else Report.metadata s.styled metadata

/-- A command carried out; what it prints. -/
def carryOut (environment : List (String × String)) (command : CommandLine.Command) :
    Attempt World Error String := do
  let s ← surroundings environment
  match command with
  | .generate options => generate s options
  | .apply url => apply s url
  | .fetch url branch reference => fetch s url branch reference
  | .show url json => show? s url json

/-- What is printed when the version is asked for. -/
def versionLine : String := "git-webrev " ++ programVersion ++ "\n"

/-- How the program ends when its arguments are no command. -/
def stopped : CommandLine.Stop → Outcome
  | .help => ⟨0, ""⟩
  | .version => ⟨0, versionLine⟩
  | .misuse => ⟨2, ""⟩

/-- A run of the program: how it ends, what it prints, and why it failed if it did. -/
def run (arguments : List String) (environment : List (String × String)) :
    StateM World (Outcome × Option Error) := do
  match CommandLine.parse arguments with
  | .error stop => return (stopped stop, none)
  | .ok command =>
    match ← (carryOut environment command).run with
    | .ok text => return (⟨0, text⟩, none)
    | .error error => return (⟨1, ""⟩, some error)

end Webrev.Program
