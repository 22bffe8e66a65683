import Webrev.FileTree.Remove
import Webrev.Generation.Plan
import Webrev.Machine.Process

/-!
# Making a webrev

A webrev is planned, what lies where it goes is removed, and the generator is called. A place that
the working directory lies in is not cleared, however it is written.

## Main definitions

* `Generation.Error` : why a webrev was not made.
* `Generation.clearOutput` : the removal of what lies where a webrev goes.
* `Generation.arguments` : a plan as the arguments of the generator.
* `Generation.generate` : a webrev made.
-/

namespace Webrev.Generation

open Machine (Fault)

/-- Why a webrev was not made. -/
inductive Error where
  | plan (error : Plan.Error)
  | spawn (program : String) (fault : Fault)
  | failed (program : String) (status : Machine.ExitStatus)
  | unsafeOutput (path : String)
  | clearOutput (path : String) (fault : Fault)
  deriving DecidableEq, Repr

/-- The description of a failure. -/
def Error.message : Error → String
  | .plan error => error.message
  | .spawn program fault => "Failed to run " ++ program ++ ": " ++ fault.message
  | .failed program status => program ++ " exited with " ++ status.text
  | .unsafeOutput path =>
    "Refusing to clear output directory " ++ path ++ ": it contains the working directory"
  | .clearOutput path fault =>
    "Failed to clear output directory " ++ path ++ ": " ++ fault.message

/-! ### Clearing the output -/

/-- The place that a path leads to through all links. -/
def placeOf (machine : Machine) (path : String) : Except Error FileTree.Place :=
  match machine.tree.locateFrom machine.directory true path with
  | .ok (place, _) => .ok place
  | .error fault => .error (.clearOutput path fault)

/-- The working directory does not lie where the webrev goes. -/
def checkOutput (machine : Machine) (output cwd : String) : Except Error Unit := do
  let working ← placeOf machine cwd
  let cleared ← placeOf machine output
  if cleared.isPrefixOf working then throw (.unsafeOutput output)

/-- The removal of what lies where a webrev goes. The second component is the machine after it, also
when the removal fails. -/
def clearOutput (output cwd : String) (machine : Machine) : Except Error Unit × Machine :=
  match machine.tree.locateFrom machine.directory true output with
  | .error _ => (.ok (), machine)
  | .ok _ =>
    match checkOutput machine output cwd with
    | .error error => (.error error, machine)
    | .ok () =>
      let (outcome, tree) := machine.tree.removeAll machine.directory output
      (outcome.mapError (.clearOutput output), { machine with tree })

/-! ### Generators -/

/-- An argument with the flag in front of it, if there is one. -/
def flagged (flag : String) : Option String → List String
  | some value => [flag, value]
  | none => []

/-- A plan as the arguments of the generator. -/
def arguments (plan : Plan) : List String :=
  ["--output", plan.output, "--title", plan.title, "--version", plan.version] ++
    flagged "--username" plan.username ++ flagged "--upstream" plan.repository ++
    flagged "--issue" plan.issue ++ ["--rev", plan.base.text]

/-- The generator that is a program, run in a directory. -/
def external (program workdir : String) (plan : Plan) (machine : Machine) :
    Except Error Unit × Machine :=
  match machine.run ⟨program, arguments plan, some workdir, []⟩ with
  | (.error fault, machine) => (.error (.spawn program fault), machine)
  | (.ok reply, machine) =>
    (if reply.status.isSuccess then .ok () else .error (.failed program reply.status), machine)

/-! ### Generation -/

/-- A webrev, planned and made by a generator, where the machine is a part of the world. -/
def generate {ω : Type} (machine : ω → Machine) (setMachine : Machine → ω → ω) (queries : Queries ω)
    (generator : Plan → Attempt ω Error Unit) (options : Plan.Options) (baseRef : String)
    (defaults : Plan.Defaults) : Attempt ω Error Plan := do
  let plan ← (Plan.make queries options baseRef defaults).mapError .plan
  Attempt.zoom machine setMachine (ExceptT.mk (clearOutput plan.output defaults.cwd))
  generator plan
  return plan

end Webrev.Generation
