import Webrev.Client
import Webrev.Machine.Fault

/-!
# Repositories

What a repository is asked and what it is told to do. The questions change nothing in the repository.
Both are data, so a repository is a function from them to steps on a world.

## Main definitions

* `CommitHash`, `Branch` : what a repository calls its commits and branches.
* `Query`, `Query.Answer` : the questions to a repository and their answers.
* `Mutation`, `Mutation.Answer` : what a repository is told to do.
* `Queries`, `Repository` : whoever answers questions, and whoever also does what it is told.
* `RepositoryError` : why a repository did not do something.
-/

namespace Webrev

/-- What a commit is called, kept as it is given. -/
structure CommitHash where
  text : String
  deriving DecidableEq, Repr

/-- A branch by its name. -/
structure Branch where
  name : String
  deriving DecidableEq, Repr

/-- Why a repository did not do something. -/
inductive RepositoryError where
  | notARepository (path : String)
  | commandFailed (command detail : String)
  | malformedOutput (reason : Utf8.Malformed)
  | notRun (fault : Machine.Fault)
  deriving DecidableEq, Repr

/-- The description of a failure. -/
def RepositoryError.message : RepositoryError → String
  | .notARepository path => path ++ " is not a git repository"
  | .commandFailed command detail => "git " ++ command ++ " failed: " ++ detail
  | .malformedOutput reason => "git produced non UTF-8 output: " ++ reason.message
  | .notRun fault => "failed to run git: " ++ fault.message

/-- A question to a repository. -/
inductive Query where
  /-- The commit that a revision denotes. -/
  | resolve (reference : String)
  /-- The local branches. -/
  | branches
  /-- The branch that is checked out, if one is. -/
  | currentBranch
  /-- The values of a configuration key. -/
  | config (key : String)
  /-- Nothing is changed and nothing untracked. -/
  | isClean
  /-- Where a remote is fetched from. -/
  | pullPath (remote : String)
  /-- The configured name of the committer. -/
  | username
  deriving DecidableEq, Repr

/-- The answers to a question. -/
def Query.Answer : Query → Type
  | .resolve _ => Option CommitHash
  | .branches => List Branch
  | .currentBranch => Option Branch
  | .config _ => List String
  | .isClean => Bool
  | .pullPath _ => Option String
  | .username => Option String

/-- What a repository is told to do. -/
inductive Mutation where
  /-- Create a branch at a commit without checking it out. -/
  | branch (commit : CommitHash) (name : String)
  /-- Check out a branch. -/
  | checkout (branch : Branch)
  /-- Check out a commit without a branch. -/
  | detach (commit : CommitHash)
  /-- Take back all changes to tracked files. -/
  | discardChanges
  /-- Apply a patch. With `allowPartial` what does not fit is left out. -/
  | apply (patch : PatchFile) (allowPartial : Bool)
  /-- Commit what is staged. An empty author is the configured one. -/
  | commit (message authorName authorEmail : String)
  /-- Delete a branch. -/
  | deleteBranch (branch : Branch)
  deriving DecidableEq, Repr

/-- What a repository gives back. -/
def Mutation.Answer : Mutation → Type
  | .branch .. => Branch
  | .commit .. => CommitHash
  | _ => Unit

/-- Anything that a repository is asked or told. -/
inductive Call where
  | query (query : Query)
  | mutation (mutation : Mutation)
  deriving DecidableEq, Repr

/-- Whoever answers the questions to a repository. -/
structure Queries (ω : Type) where
  query : (query : Query) → Attempt ω RepositoryError query.Answer

/-- Whoever answers the questions to a repository and does what it is told. -/
structure Repository (ω : Type) extends Queries ω where
  mutate : (mutation : Mutation) → Attempt ω RepositoryError mutation.Answer

namespace Repository

/-- A repository in a part of a world, as a repository in the world. -/
def zoom {ω ω' : Type} (get : ω → ω') (set : ω' → ω → ω) (repository : Repository ω') :
    Repository ω where
  query q := (repository.query q).zoom get set
  mutate m := (repository.mutate m).zoom get set

end Repository

end Webrev
