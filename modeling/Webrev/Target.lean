import Webrev.Repository.Basic

/-!
# The commit that a webrev applies to

In order, what counts is a reference that is asked for, the revision that the webrev was compared
against, and the branch that the webrev was prepared for, if the repository has it. Weaker evidence
is not looked at when there is stronger.

## Main definitions

* `Target` : a commit, and what it was chosen by.
* `Target.resolve` : the commit that a webrev applies to.
* `ResolveError` : why there is none.
-/

namespace Webrev

/-- What a target was chosen by. -/
inductive Target.Origin where
  | override
  | compareAgainstRevision
  | branch
  deriving DecidableEq, Repr

/-- The description of an origin. -/
def Target.Origin.text : Target.Origin → String
  | .override => "--ref"
  | .compareAgainstRevision => "compare-against revision"
  | .branch => "webrev branch"

/-- A commit, and what it was chosen by. -/
structure Target where
  commit : CommitHash
  origin : Target.Origin
  deriving DecidableEq, Repr

/-- Why there is no commit to apply a webrev to. -/
inductive ResolveError where
  | unresolvableReference (reference : String)
  | unknownBranch (name : String)
  | noResolutionPath
  | repository (error : RepositoryError)
  deriving DecidableEq, Repr

/-- The description of a failure. -/
def ResolveError.message : ResolveError → String
  | .unresolvableReference reference => "could not resolve reference '" ++ reference ++ "'"
  | .unknownBranch name =>
    "webrev applies to branch '" ++ name ++ "', but this repository has no such branch"
  | .noResolutionPath =>
    "found no information indicating where to apply this webrev; use --ref to specify a ref explicitly"
  | .repository error => error.message

variable {ω : Type}

/-- The commit that a reference denotes. -/
def Queries.commitOf (queries : Queries ω) (reference : String) :
    Attempt ω ResolveError CommitHash := do
  match ← (queries.query (.resolve reference)).mapError .repository with
  | some commit => return commit
  | none => throw (.unresolvableReference reference)

/-- The commit of a branch that the repository has. -/
def Queries.commitOfBranch (queries : Queries ω) (name : String) :
    Attempt ω ResolveError CommitHash := do
  let known ← (queries.query .branches).mapError .repository
  if known.any fun branch => branch.name == name then queries.commitOf name
  else throw (.unknownBranch name)

namespace Target

/-- The commit that a webrev applies to, when `reference` is asked for. -/
def resolve (queries : Queries ω) (metadata : Metadata) (reference : Option String) :
    Attempt ω ResolveError Target := do
  match reference, metadata.compareAgainstRevision, metadata.branch with
  | some reference, _, _ => return ⟨← queries.commitOf reference, .override⟩
  | none, some revision, _ => return ⟨⟨revision⟩, .compareAgainstRevision⟩
  | none, none, some name => return ⟨← queries.commitOfBranch name, .branch⟩
  | none, none, none => throw .noResolutionPath

end Target

end Webrev
