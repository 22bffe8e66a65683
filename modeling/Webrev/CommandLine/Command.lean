import Webrev.CommandLine.Arguments
import Webrev.Generation.Plan

/-!
# Commands

What the program can be told to do. Without the name of a command it generates a webrev.

## Main definitions

* `CommandLine.Command` : what the program is told to do.
* `CommandLine.parse` : the command that arguments are.
-/

namespace Webrev.CommandLine

/-- What the program is told to do. -/
inductive Command where
  | generate (options : Plan.Options)
  | apply (url : String)
  | fetch (url : String) (branch reference : Option String)
  | show (url : String) (json : Bool)
  deriving DecidableEq, Repr

/-- The switch that asks for help. -/
def help : Switch := ⟨"help", some 'h', false⟩

/-- What is understood in front of the name of a command. -/
def topGrammar : Grammar := ⟨[help, ⟨"version", some 'V', false⟩], 0⟩

/-- What the command that generates understands. -/
def generateGrammar : Grammar where
  switches :=
    [help, ⟨"rev", some 'r', true⟩, ⟨"output", some 'o', true⟩, ⟨"username", some 'u', true⟩,
      ⟨"repository", none, true⟩, ⟨"title", some 't', true⟩, ⟨"cr", some 'c', true⟩,
      ⟨"no-outgoing", some 'N', false⟩]
  positionals := 0

/-- What the command that applies understands. -/
def applyGrammar : Grammar := ⟨[help], 1⟩

/-- What the command that fetches understands. -/
def fetchGrammar : Grammar := ⟨[help, ⟨"branch", some 'b', true⟩, ⟨"ref", none, true⟩], 1⟩

/-- What the command that shows understands. -/
def showGrammar : Grammar := ⟨[help, ⟨"json", none, false⟩], 1⟩

/-- What is said to the command that generates. -/
def optionsOf (given : Given) : Plan.Options where
  rev := given.value? "rev"
  output := given.value? "output"
  username := given.value? "username"
  repository := given.value? "repository"
  title := given.value? "title"
  cr := given.value? "cr"
  noOutgoing := given.has "no-outgoing"

/-- The one positional argument. -/
def theUrl (given : Given) : Except Stop String :=
  match given.positionals with
  | [url] => .ok url
  | _ => .error .misuse

/-- The names of the commands. -/
def commandNames : List String := ["generate", "apply", "fetch", "show", "help"]

/-- The command with a name. -/
def parseCommand (name : String) (arguments : List String) : Except Stop Command :=
  match name with
  | "generate" => do
    let given ← readArguments generateGrammar .empty arguments
    return .generate (optionsOf given)
  | "apply" => do
    let given ← readArguments applyGrammar .empty arguments
    return .apply (← theUrl given)
  | "fetch" => do
    let given ← readArguments fetchGrammar .empty arguments
    return .fetch (← theUrl given) (given.value? "branch") (given.value? "ref")
  | "show" => do
    let given ← readArguments showGrammar .empty arguments
    return .show (← theUrl given) (given.has "json")
  | "help" =>
    match arguments with
    | [] => .error .help
    | [name] => .error (if commandNames.contains name then .help else .misuse)
    | _ => .error .misuse
  | _ => .error .misuse

/-- The command that arguments are. -/
def parse (arguments : List String) : Except Stop Command :=
  match arguments with
  | [] => parseCommand "generate" []
  | first :: rest =>
    if commandNames.contains first then parseCommand first rest
    else
      match readArguments topGrammar .empty [first] with
      | .error stop => .error stop
      | .ok _ => if rest = [] then parseCommand "generate" [] else .error .misuse

end Webrev.CommandLine
