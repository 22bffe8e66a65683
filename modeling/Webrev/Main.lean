import Webrev.Program

/-!
# Command line

The program with the arguments, the environment, the working directory and the configuration file of
the process. No programs are run and no network is reached: a command that needs them fails as it
does on a machine that has none.
-/

namespace Webrev.Process

/-- The variables of the environment that the program looks at. -/
def consulted : List String :=
  ["USER", "USERNAME", "GIT_WEBREV_GENERATOR", "CLICOLOR_FORCE"]

/-- What the environment of the process says. -/
def readEnvironment : IO (List (String × String)) :=
  consulted.filterMapM fun name => return (← IO.getEnv name).map fun value => (name, value)

/-- The working directory of the process with its configuration file. -/
def readMachine : IO Machine := do
  let place := FilePath.names (← IO.currentDir).toString
  let bare := FileTree.empty.putDirectories place
  let tree ←
    try
      let contents ← IO.FS.readBinFile Config.fileName
      pure (bare.put (place ++ [Config.fileName]) (.file contents.toList false))
    catch _ => pure bare
  return ⟨tree, place, [], [], []⟩

/-- A network that cannot be reached, and no place for temporary files. -/
def offline : Http.Session := ⟨⟨false, [], []⟩, ⟨"", false, [], 0, []⟩, []⟩

/-- A run of the program with the arguments of the process. -/
def run (arguments : List String) : IO UInt32 := do
  let world : Program.World := ⟨← readMachine, offline⟩
  let ((outcome, error), _) := (Program.run arguments (← readEnvironment)).run world
  IO.print outcome.text
  if let some error := error then IO.eprintln ("Error: " ++ error.message)
  return outcome.code.toUInt32

end Webrev.Process

/-- A run of the program with the arguments of the process. -/
def main (arguments : List String) : IO UInt32 := Webrev.Process.run arguments
