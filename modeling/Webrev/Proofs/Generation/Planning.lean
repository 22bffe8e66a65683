import Webrev.Generation.Plan
import Webrev.Machine.Process
import Webrev.Proofs.Attempt
import Webrev.Repository.Git

/-!
# What planning keeps

A plan is made by asking the repository, so whatever the answers to questions leave as it is, the
plan leaves as it is. Questions to `git` are runs of a program, and a run of a program does not
touch the files of the machine.

## Main definitions

* `Queries.Keep` : questions whose answers leave something as it is.
* `Machine.files` : the file tree and the working directory.

## Main results

* `Plan.make_keeps` : what a plan leaves as it is.
* `Git.query_keeps` : `git` leaves the files as they are.
-/

namespace Webrev

/-- The answer to every question leaves what is seen of a world as it is. -/
def Queries.Keep {ω σ : Type} (see : ω → σ) (queries : Queries ω) : Prop :=
  ∀ query, (queries.query query).Keeps see

namespace Plan

open Attempt

variable {ω σ : Type} {see : ω → σ} {queries : Queries ω} {options : Options} {baseRef : String}
  {defaults : Defaults}

theorem readSetting_keeps (h : queries.Keep see) (flag : Option String) (name : String) :
    (readSetting queries flag name).Keeps see := by
  refine Keeps.mapError ?_ _
  cases flag with
  | some value => exact .pure _
  | none => exact (h _).bind fun _ => .pure _

theorem readRepository_keeps (h : queries.Keep see) :
    (readRepository queries options).Keeps see := by
  refine (readSetting_keeps h _ _).bind fun setting => ?_
  cases setting with
  | some repository => exact .pure _
  | none => exact ((h _).mapError _).bind fun _ => .pure _

theorem readNoOutgoing_keeps (h : queries.Keep see) :
    (readNoOutgoing queries options).Keeps see := by
  unfold readNoOutgoing
  split
  · exact .pure _
  · exact ((h _).mapError _).bind fun _ => .pure _

theorem commitOf_keeps (h : queries.Keep see) (reference : String) :
    (queries.commitOf reference).Keeps see := by
  refine ((h _).mapError _).bind fun commit => ?_
  cases commit with
  | some commit => exact .pure _
  | none => exact .throw _

theorem readBase_keeps (h : queries.Keep see) : (readBase queries options baseRef).Keeps see :=
  (readNoOutgoing_keeps h).bind fun _ => (commitOf_keeps h _).mapError _

theorem readIssue_keeps (h : queries.Keep see) : (readIssue queries options).Keeps see := by
  unfold readIssue
  split
  · exact .pure _
  · exact ((h _).mapError _).bind fun _ => .pure _

theorem readUsername_keeps (h : queries.Keep see) :
    (readUsername queries options defaults).Keeps see := by
  refine (readSetting_keeps h _ _).bind fun setting => ?_
  cases setting with
  | some name => exact .pure _
  | none => exact ((h _).mapError _).bind fun _ => .pure _

/-- Making a plan leaves as it is what the answers to questions leave as it is. -/
theorem make_keeps (h : queries.Keep see) (options : Options) (baseRef : String)
    (defaults : Defaults) : (make queries options baseRef defaults).Keeps see :=
  (readRepository_keeps h).bind fun _ => (readBase_keeps h).bind fun _ =>
    (readIssue_keeps h).bind fun _ => (readSetting_keeps h _ _).bind fun _ =>
      (readUsername_keeps h).bind fun _ => .pure _

end Plan

/-- The file tree of a machine and its working directory. -/
def Machine.files (machine : Machine) : FileTree × FileTree.Place :=
  (machine.tree, machine.directory)

theorem Machine.files_run (machine : Machine) (command : Command) :
    (machine.run command).2.files = machine.files := by
  unfold Machine.run
  split <;> rfl

namespace Git

open Attempt

variable {root : String}

theorem run_keeps (directory : Option String) (args : List String)
    (environment : List (String × String)) :
    (run directory args environment).Keeps Machine.files := fun machine => machine.files_run _

theorem checked_keeps (args : List String) : (checked root args).Keeps Machine.files := by
  refine (run_keeps _ _ _).bind fun reply => ?_
  split
  · exact .ofExcept _
  · exact .throw _

theorem resolve_keeps (reference : String) : (resolve root reference).Keeps Machine.files := by
  unfold resolve
  split
  · exact .pure _
  · refine (run_keeps _ _ _).bind fun reply => ?_
    split
    · exact (Keeps.ofExcept _).bind fun _ => .pure _
    · exact .pure _

theorem currentBranch_keeps : (currentBranch root).Keeps Machine.files := by
  refine (run_keeps _ _ _).bind fun reply => ?_
  split
  · exact (Keeps.ofExcept _).bind fun _ => .pure _
  · exact .pure _

theorem config_keeps (key : String) : (config root key).Keeps Machine.files := by
  refine (run_keeps _ _ _).bind fun reply => ?_
  split
  · exact (Keeps.ofExcept _).bind fun _ => .pure _
  split
  · exact .pure _
  · exact .throw _

/-- The questions to `git` leave the files of the machine as they are. -/
theorem query_keeps (root : String) : (repository root).toQueries.Keep Machine.files
  | .resolve _ => resolve_keeps _
  | .branches => (checked_keeps _).bind fun _ => .pure _
  | .currentBranch => currentBranch_keeps
  | .config _ => config_keeps _
  | .isClean => (checked_keeps _).bind fun _ => .pure _
  | .pullPath _ => (config_keeps _).bind fun _ => .pure _
  | .username => (config_keeps _).bind fun _ => .pure _

end Git

end Webrev
