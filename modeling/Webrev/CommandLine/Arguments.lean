/-!
# Arguments of a command

A command has switches, options that take a value, and positional arguments. A switch or an option is
written in full after two hyphens or as one letter after one; several letters may stand together, and
a value may be attached. What follows two hyphens alone is positional.

## Main definitions

* `CommandLine.Switch` : a switch, or an option that takes a value.
* `CommandLine.Given` : what the arguments say.
* `CommandLine.readArguments` : what the arguments of a command say.
-/

namespace Webrev.CommandLine

/-- A switch, or an option that takes a value, by its name and its letter if it has one. -/
structure Switch where
  name : String
  letter : Option Char
  takesValue : Bool
  deriving DecidableEq, Repr

/-- What a command understands: its switches and the number of its positional arguments. -/
structure Grammar where
  switches : List Switch
  positionals : Nat
  deriving DecidableEq, Repr

/-- What the arguments say: the switches with their values, and the positional arguments. -/
structure Given where
  switches : List (String × String)
  positionals : List String
  deriving DecidableEq, Repr

/-- Why the arguments of a command are not read to their end. -/
inductive Stop where
  | help
  | version
  | misuse
  deriving DecidableEq, Repr

namespace Given

/-- Nothing is said. -/
def empty : Given := ⟨[], []⟩

/-- A switch is given. -/
def has (given : Given) (name : String) : Bool := (given.switches.lookup name).isSome

/-- The value of an option. -/
def value? (given : Given) (name : String) : Option String := given.switches.lookup name

/-- A switch in addition, which may not be given twice. -/
def set (given : Given) (name value : String) : Except Stop Given :=
  if given.has name then .error .misuse
  else .ok { given with switches := given.switches ++ [(name, value)] }

/-- A positional argument in addition. -/
def push (given : Given) (grammar : Grammar) (argument : String) : Except Stop Given :=
  if given.positionals.length < grammar.positionals then
    .ok { given with positionals := given.positionals ++ [argument] }
  else .error .misuse

end Given

/-- What giving a switch without a value comes to. -/
def switchOn (given : Given) (name : String) : Except Stop Given :=
  if name = "help" then .error .help
  else if name = "version" then .error .version
  else given.set name ""

/-- What an argument comes to: it says all that it has to say, or it names an option whose value is
the next argument. -/
inductive Effect where
  | complete (given : Given)
  | awaits (given : Given) (name : String)
  deriving DecidableEq, Repr

/-- A switch, with the value that is attached to its name if there is one. -/
def readName (grammar : Grammar) (given : Given) (name : String) (value : Option String) :
    Except Stop Effect :=
  match grammar.switches.find? fun switch => switch.name == name, value with
  | none, _ => .error .misuse
  | some switch, some value =>
    if switch.takesValue then (given.set name value).map .complete else .error .misuse
  | some switch, none =>
    if switch.takesValue then .ok (.awaits given name) else (switchOn given name).map .complete

/-- Letters after a hyphen. What follows the letter of an option is its value; an equals sign in
between does not belong to it. -/
def readLetters (grammar : Grammar) (given : Given) : List Char → Except Stop Effect
  | [] => .ok (.complete given)
  | c :: rest =>
    match grammar.switches.find? fun switch => switch.letter == some c with
    | none => .error .misuse
    | some switch =>
      if switch.takesValue then
        match rest with
        | [] => .ok (.awaits given switch.name)
        | '=' :: value => (given.set switch.name (String.ofList value)).map .complete
        | value => (given.set switch.name (String.ofList value)).map .complete
      else
        match switchOn given switch.name with
        | .ok given => readLetters grammar given rest
        | .error stop => .error stop

/-- An argument in front of which no two hyphens have stood alone. -/
def readArgument (grammar : Grammar) (given : Given) (argument : String) : Except Stop Effect :=
  match argument.toList with
  | '-' :: '-' :: text =>
    let name := String.ofList (text.takeWhile (· ≠ '='))
    match text.dropWhile (· ≠ '=') with
    | [] => readName grammar given name none
    | _ :: value => readName grammar given name (some (String.ofList value))
  | '-' :: c :: letters => readLetters grammar given (c :: letters)
  | _ => (given.push grammar argument).map .complete

/-- An argument that begins with a hyphen and is more than that is no value of an option. -/
def isValue (argument : String) : Bool :=
  match argument.toList with
  | '-' :: _ :: _ => false
  | _ => true

/-- What the arguments of a command say. -/
def readArguments (grammar : Grammar) (given : Given) : List String → Except Stop Given
  | [] => .ok given
  | "--" :: rest => rest.foldlM (fun given argument => given.push grammar argument) given
  | argument :: rest =>
    match readArgument grammar given argument with
    | .error stop => .error stop
    | .ok (.complete given) => readArguments grammar given rest
    | .ok (.awaits given name) =>
      match rest with
      | [] => .error .misuse
      | value :: rest =>
        if isValue value then
          match given.set name value with
          | .error stop => .error stop
          | .ok given => readArguments grammar given rest
        else .error .misuse

end Webrev.CommandLine
