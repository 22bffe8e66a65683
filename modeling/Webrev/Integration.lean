import Webrev.Target

/-!
# Bringing a webrev into a repository

A webrev is applied to what is checked out, or fetched: committed on a new branch at the commit that
it applies to. Nothing is changed before the patch is there and, for a fetch, before the commit is
known. When a fetch fails after its branch was made, the patch is taken back, what was checked out
before is checked out again, and the branch is deleted; a step of this is taken only when the one
before it succeeded.

## Main definitions

* `Integration.Error` : why a webrev was not brought in.
* `Integration.apply` : a webrev applied to what is checked out.
* `Integration.fetch` : a webrev committed on a new branch.
* `Integration.rollBack` : a fetch taken back.
-/

namespace Webrev.Integration

/-- Why a webrev was not brought in. -/
inductive Error where
  | access (error : AccessError)
  | patchNotFound (source : Url)
  | dirtyWorkingCopy
  | resolve (error : ResolveError)
  | repository (error : RepositoryError)
  deriving DecidableEq, Repr

/-- The description of a failure. -/
def Error.message : Error → String
  | .access error => error.message
  | .patchNotFound source => "Could not find patch file in webrev " ++ source.text
  | .dirtyWorkingCopy => "Repository is not clean; commit or stash your changes first"
  | .resolve error => error.message
  | .repository error => error.message

/-- What was applied. -/
structure Applied where
  metadata : Metadata
  patchUri : Url
  deriving DecidableEq, Repr

/-- What was fetched, and onto what. -/
structure Fetched where
  metadata : Metadata
  target : Target
  branch : Branch
  commit : CommitHash
  deriving DecidableEq, Repr

/-- What is to be fetched: a location, which is also the message of the commit, the name of the
branch, and the reference to apply to, if one is asked for. -/
structure Request where
  location : String
  branch : String
  reference : Option String
  deriving DecidableEq, Repr

variable {ω : Type}

/-! ### Downloads -/

/-- The metadata of the webrev at a location. -/
def metadataAt (client : Client ω) (location : String) : Attempt ω Error Metadata :=
  (client.fetchMetadata location).mapError .access

/-- A step with a downloaded patch, whose file is released afterwards whatever the outcome. -/
def withPatch {α : Type} (client : Client ω) (uri : Url) (step : PatchFile → Attempt ω Error α) :
    Attempt ω Error α := do
  let patch ← (client.fetchPatch uri).mapError .access
  ExceptT.mk do
    let outcome ← (step patch).run
    client.release patch
    return outcome

/-- A step with the metadata and the patch of the webrev at a location. -/
def withWebrev {α : Type} (client : Client ω) (location : String)
    (step : Metadata → Url → PatchFile → Attempt ω Error α) : Attempt ω Error α := do
  let metadata ← metadataAt client location
  match metadata.patchUri with
  | some uri => withPatch client uri (step metadata uri)
  | none => throw (.patchNotFound metadata.sourceUri)

/-! ### Applying -/

/-- The webrev at a location, applied to what is checked out. -/
def apply (client : Client ω) (repository : Repository ω) (location : String) :
    Attempt ω Error Applied :=
  withWebrev client location fun metadata uri patch => do
    (repository.mutate (.apply patch false)).mapError .repository
    return ⟨metadata, uri⟩

/-! ### Fetching -/

/-- What was checked out before a fetch. -/
inductive Previous where
  | branch (branch : Branch)
  | detached (commit : CommitHash)
  deriving DecidableEq, Repr

/-- What is checked out. -/
def recordPrevious (queries : Queries ω) : Attempt ω Error Previous := do
  match ← (queries.query .currentBranch).mapError .repository with
  | some branch => return .branch branch
  | none =>
    match ← (queries.query (.resolve "HEAD")).mapError .repository with
    | some commit => return .detached commit
    | none => throw (.resolve (.unresolvableReference "HEAD"))

/-- What was checked out before a fetch, checked out again. -/
def Previous.restore (repository : Repository ω) : Previous → Attempt ω RepositoryError Unit
  | .branch name => repository.mutate (.checkout name)
  | .detached commit => repository.mutate (.detach commit)

/-- A patch committed on a branch. -/
def commitPatch (repository : Repository ω) (branch : Branch) (patch : PatchFile)
    (message author : String) : Attempt ω RepositoryError CommitHash := do
  repository.mutate (.checkout branch)
  repository.mutate (.apply patch false)
  repository.mutate (.commit message author "")

/-- The steps that take a fetch back, up to the first one that fails. -/
def takeBack (repository : Repository ω) (previous : Previous) (created : Branch) :
    Attempt ω RepositoryError Unit := do
  repository.mutate .discardChanges
  previous.restore repository
  repository.mutate (.deleteBranch created)

/-- A fetch taken back as far as possible. -/
def rollBack (repository : Repository ω) (previous : Previous) (created : Branch) :
    StateM ω Unit := do
  let _ ← (takeBack repository previous created).run
  return ()

/-- A patch committed on a branch; if that fails, the fetch is taken back. -/
def commitOrRollBack (repository : Repository ω) (previous : Previous) (branch : Branch)
    (patch : PatchFile) (message author : String) : Attempt ω Error CommitHash :=
  ExceptT.mk do
    match ← (commitPatch repository branch patch message author).run with
    | .ok commit => return .ok commit
    | .error error =>
      rollBack repository previous branch
      return .error (.repository error)

/-- The downloaded patch of a webrev, committed on a new branch. -/
def fetchPatch (repository : Repository ω) (request : Request) (metadata : Metadata)
    (patch : PatchFile) : Attempt ω Error Fetched := do
  let target ← (Target.resolve repository.toQueries metadata request.reference).mapError .resolve
  let previous ← recordPrevious repository.toQueries
  let branch ← (repository.mutate (.branch target.commit request.branch)).mapError .repository
  let commit ← commitOrRollBack repository previous branch patch request.location
    (metadata.author.getD "")
  return ⟨metadata, target, branch, commit⟩

/-- A webrev, committed on a new branch. -/
def fetch (client : Client ω) (repository : Repository ω) (request : Request) :
    Attempt ω Error Fetched := do
  let clean : Bool ← (repository.query .isClean).mapError .repository
  if !clean then throw .dirtyWorkingCopy
  withWebrev client request.location fun metadata _ patch =>
    fetchPatch repository request metadata patch

end Webrev.Integration
