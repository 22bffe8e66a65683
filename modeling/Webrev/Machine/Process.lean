import Webrev.FileTree.Walk

/-!
# Running programs

A machine holds a file tree and runs programs that lie in it. What the programs answer is given
beforehand: each run takes the next reply, and a run without a reply ends with the status 127.

## Main definitions

* `Machine` : a file tree, where programs are looked for, the replies to come and the runs so far.
* `Machine.Command` : a program with its arguments.
* `Machine.run` : one run.
-/

namespace Webrev

namespace Machine

/-- How a run ended. -/
inductive ExitStatus where
  | exited (code : UInt8)
  | killed (signal : Nat)
  deriving DecidableEq, Repr

namespace ExitStatus

/-- The names of the signals, from 1 on. -/
def signalNames : List String :=
  ["SIGHUP", "SIGINT", "SIGQUIT", "SIGILL", "SIGTRAP", "SIGABRT", "SIGBUS", "SIGFPE", "SIGKILL",
    "SIGUSR1", "SIGSEGV", "SIGUSR2", "SIGPIPE", "SIGALRM", "SIGTERM", "SIGSTKFLT", "SIGCHLD",
    "SIGCONT", "SIGSTOP", "SIGTSTP", "SIGTTIN", "SIGTTOU", "SIGURG", "SIGXCPU", "SIGXFSZ",
    "SIGVTALRM", "SIGPROF", "SIGWINCH", "SIGIO", "SIGPWR", "SIGSYS"]

/-- The description of a status. -/
def text : ExitStatus → String
  | .exited code => "exit status: " ++ toString code.toNat
  | .killed signal =>
    "signal: " ++ toString signal ++
      match (none :: signalNames.map some)[signal]? with
      | some (some name) => " (" ++ name ++ ")"
      | _ => ""

/-- The run ended well. -/
def isSuccess (status : ExitStatus) : Bool := status == .exited 0

end ExitStatus

/-- What a run answers: its status and what it wrote. -/
structure Reply where
  status : ExitStatus
  out : List UInt8
  err : List UInt8
  deriving DecidableEq, Repr

/-- A program with its arguments, the directory that it is to run in if that is not the one of the
machine, and what its environment says in addition. -/
structure Command where
  program : String
  args : List String
  directory : Option String
  environment : List (String × String)
  deriving DecidableEq, Repr

/-- A run that took place: what ran, and where. -/
structure Run where
  program : String
  directory : FileTree.Place
  args : List String
  environment : List (String × String)
  deriving DecidableEq, Repr

end Machine

/-- A file tree, the directory and the search path of the processes, the replies to come and the runs
so far. -/
structure Machine where
  tree : FileTree
  directory : FileTree.Place
  searchPath : List String
  replies : List Machine.Reply
  runs : List Machine.Run
  deriving DecidableEq, Repr

namespace Machine

/-- A text that is handed to the system holds no NUL. -/
def hasNul (text : String) : Bool := text.toList.contains '\x00'

/-- A command with a text that cannot be handed to the system. -/
def Command.hasNul (command : Command) : Bool :=
  Machine.hasNul command.program || command.args.any Machine.hasNul ||
    command.directory.any Machine.hasNul ||
    command.environment.any fun entry => Machine.hasNul entry.2

/-- The place of the program at a path, if it can be run. -/
def programAt (tree : FileTree) (directory : FileTree.Place) (path : String) :
    Except Fault FileTree.Place :=
  match tree.locateFrom directory true path with
  | .ok (place, .file _ true) => .ok place
  | .ok _ => .error .permission
  | .error fault => .error fault

/-- The place of the program with a name: a name with a slash is a path, and another one is looked
for on the search path. -/
def findProgram (machine : Machine) (directory : FileTree.Place) (name : String) :
    Except Fault FileTree.Place :=
  if name.toList.contains '/' then programAt machine.tree directory name
  else if name.isEmpty then .error .noEntry
  else
    machine.searchPath.foldr
      (fun folder rest =>
        match programAt machine.tree directory (FilePath.join folder name) with
        | .ok place => .ok place
        | .error .permission =>
          match rest with
          | .ok place => .ok place
          | .error _ => .error .permission
        | .error _ => rest)
      (.error .noEntry)

/-- The directory that a command runs in. -/
def directoryOf (machine : Machine) (command : Command) : Except Fault FileTree.Place :=
  match command.directory with
  | none => .ok machine.directory
  | some path =>
    match machine.tree.locateFrom machine.directory true path with
    | .ok (place, .directory) => .ok place
    | .ok _ => .error .notADirectory
    | .error fault => .error fault

/-- What a command is run as, and where. -/
def locateCommand (machine : Machine) (command : Command) : Except Fault Run := do
  if command.hasNul then throw .nulInArgument
  let directory ← machine.directoryOf command
  let place ← machine.findProgram directory command.program
  return ⟨place.getLast?.getD "", directory, command.args, command.environment⟩

/-- The answer of a run for which no reply is given. -/
def silence : Reply := ⟨.exited 127, [], []⟩

/-- One run. -/
def run (machine : Machine) (command : Command) : Except Fault Reply × Machine :=
  match machine.locateCommand command with
  | .error fault => (.error fault, machine)
  | .ok run =>
    (.ok (machine.replies.head?.getD silence),
      { machine with replies := machine.replies.drop 1, runs := machine.runs ++ [run] })

end Machine

end Webrev
