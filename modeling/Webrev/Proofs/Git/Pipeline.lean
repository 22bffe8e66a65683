import Webrev.Integration
import Webrev.Proofs.Git.Dialogue

/-!
# What a fetch asks `git`

The runs of `git` that a fetch makes, in order. A fetch finds out that nothing is changed, what to
apply the webrev to and what is checked out; it makes its branch, and commits the patch there. Each
run needs the ones before it to have ended well. When one of those that commit the patch does not,
runs follow that take the fetch back, each of which again needs the ones before it. The download
stands between the first run and the second, and only its outcome matters here.

How a reply is read is said here as well, and not taken from a program that runs `git`.

## Main definitions

* `Git.Talk` : a dialogue that may end in a failure.
* `Git.said`, `Git.complaint` : what a reply says, and what it says of a failure.
* `Git.Step`, `Git.inOrder` : runs one after the other, up to the first that fails.
* `Git.prepare` : the runs before the branch is made.
* `Git.commitSteps`, `Git.takeBackSteps` : the runs after that.
* `Git.pipeline` : all runs of a fetch.
-/

namespace Webrev.Git

open Integration

variable {ε ε' α : Type}

/-- A dialogue that may end in a failure. -/
abbrev Talk (ε α : Type) := ExceptT ε Dialogue α

/-- The failures of a dialogue, told in other words. -/
def Talk.mapError (f : ε → ε') (talk : Talk ε α) : Talk ε' α :=
  ExceptT.mk ((·.mapError f) <$> talk.run)

/-- A dialogue without a question. -/
def Talk.ofExcept (outcome : Except ε α) : Talk ε α := ExceptT.mk (pure outcome)

/-- A question; it fails when no run takes place. -/
def ask (question : Question) : Talk RepositoryError Machine.Reply :=
  ExceptT.mk (.ask question fun answer => .done (answer.mapError .notRun))

/-! ### What a reply says -/

/-- What a run wrote, a text, without the blanks at its ends. -/
def said (reply : Machine.Reply) : Except RepositoryError String :=
  match Utf8.decode reply.out with
  | .ok text => .ok (Text.trimmed (String.ofList text))
  | .error malformed => .error (.malformedOutput malformed)

/-- What a run is told to have failed with that did not end well: the first of its two outputs that
is not blank, the one for errors before the other, and how it ended if both are. -/
def complaint (words : List Word) (reply : Machine.Reply) : RepositoryError :=
  .commandFailed ((words.map Word.text).headD "")
    ((([reply.err, reply.out].map fun octets =>
      Text.trimmed (String.ofList (Utf8.decodeLossy octets))).find? (· ≠ "")).getD
        reply.status.text)

/-! ### Runs one after the other -/

/-- A run, and what is made of its reply. -/
structure Step where
  question : Question
  read : Machine.Reply → Except RepositoryError String

namespace Step

/-- A run that has to end well. -/
def silent (question : Question) : Step where
  question := question
  read reply := if reply.status.isSuccess then .ok "" else .error (complaint question.words reply)

/-- A run that has to end well and to write a text, which counts without the blanks at its ends. -/
def printed (words : List Word) : Step where
  question := ⟨words, []⟩
  read reply := if reply.status.isSuccess then said reply else .error (complaint words reply)

/-- The run of a step, and what is made of the reply. -/
def take (step : Step) : Talk RepositoryError String := do
  let reply ← ask step.question
  Talk.ofExcept (step.read reply)

end Step

/-- Steps in order, up to the first one that fails; what is made of the last reply. -/
def inOrder : List Step → Talk RepositoryError String
  | [] => return ""
  | [step] => step.take
  | step :: steps => do
    let _ ← step.take
    inOrder steps

/-! ### Before the branch is made -/

/-- The word begins as an option does. -/
def Word.IsDashed (word : Word) : Prop := word.text.toList.head? = some '-'

instance (word : Word) : Decidable word.IsDashed := inferInstanceAs (Decidable (_ = _))

/-- The commit that a revision denotes. No text, or one that `git` would take for an option, denotes
none, and is not asked for. -/
def revision (word : Word) : Talk RepositoryError (Option Word) :=
  if word.text = "" ∨ word.IsDashed then return none
  else do
    let reply ← ask ⟨["rev-parse", "--verify", "--quiet",
      ⟨word.text ++ "^\x7bcommit\x7d", word.source⟩], []⟩
    if reply.status.isSuccess then
      return some ⟨← Talk.ofExcept (said reply), .git⟩
    else return none

/-- The commit of a reference that has to denote one. -/
def commitOf (word : Word) : Talk ResolveError Word := do
  match ← (revision word).mapError .repository with
  | some commit => return commit
  | none => throw (.unresolvableReference word.text)

/-- The commit that a word names. -/
def Word.commit (word : Word) : CommitHash := ⟨word.text⟩

/-- The branch that a word names. -/
def Word.branch (word : Word) : Branch := ⟨word.text⟩

/-- The name is a line of what lists the branches. -/
def lists (branches name : String) : Bool :=
  ((Text.lines branches.toList).filter (· ≠ [])).any fun line => String.ofList line == name

/-- The commit of a branch that has to be listed. -/
def commitOfBranch (word : Word) : Talk ResolveError Word := do
  let branches ← (Step.printed ["for-each-ref", "--format=%(refname:short)",
    "refs/heads/"]).take.mapError .repository
  if lists branches word.text then commitOf word
  else throw (.unknownBranch word.text)

/-- The commit that a webrev applies to, and what it is chosen by. -/
def target (metadata : Metadata) (reference : Option String) :
    Talk ResolveError (Word × Target.Origin) := do
  match reference, metadata.compareAgainstRevision, metadata.branch with
  | some reference, _, _ => return (← commitOf ⟨reference, .reference⟩, .override)
  | none, some revision, _ => return (⟨revision, .page⟩, .compareAgainstRevision)
  | none, none, some name => return (← commitOfBranch ⟨name, .page⟩, .branch)
  | none, none, none => throw .noResolutionPath

/-- The branch that is checked out, if one is. -/
def checkedOut : Talk RepositoryError (Option Word) := do
  let reply ← ask ⟨["symbolic-ref", "--quiet", "--short", "HEAD"], []⟩
  if reply.status.isSuccess then
    let name ← Talk.ofExcept (said reply)
    return if name = "" then none else some ⟨name, .git⟩
  else return none

/-- What was checked out before a fetch: a branch, or a commit without one. -/
inductive Place where
  | branch (name : Word)
  | detached (commit : Word)
  deriving DecidableEq, Repr

/-- What the place is to a repository. -/
def Place.previous : Place → Previous
  | .branch name => .branch name.branch
  | .detached commit => .detached commit.commit

/-- What is checked out. -/
def place : Talk Error Place := do
  match ← checkedOut.mapError .repository with
  | some name => return .branch name
  | none =>
    match ← (revision "HEAD").mapError .repository with
    | some commit => return .detached commit
    | none => throw (.resolve (.unresolvableReference "HEAD"))

/-- What is known when the branch is made. -/
structure Prepared where
  metadata : Metadata
  patch : PatchFile
  start : Word
  origin : Target.Origin
  place : Place
  deriving DecidableEq, Repr

/-- Nothing is changed, the webrev is there, the commit to apply it to is known, and so is what is
checked out. -/
def prepare (request : Request) (download : Except Error (Metadata × PatchFile)) :
    Talk Error Prepared := do
  let changes ← (Step.printed ["status", "--porcelain"]).take.mapError .repository
  if !changes.isEmpty then throw .dirtyWorkingCopy
  let webrev ← Talk.ofExcept download
  let chosen ← (target webrev.1 request.reference).mapError .resolve
  return ⟨webrev.1, webrev.2, chosen.1, chosen.2, ← place⟩

/-! ### From the branch on -/

/-- The run that makes the branch. -/
def branchStep (request : Request) (start : Word) : Step :=
  .printed ["branch", ⟨request.branch, .request⟩, start]

/-- The runs that commit a patch on the branch. The commit gets the author of the webrev when the
page names one. -/
def commitSteps (request : Request) (patch : PatchFile) (author : String) : List Step :=
  [.printed ["checkout", "--quiet", ⟨request.branch, .request⟩],
    .printed ["apply", "--index", ⟨patch.path, .patch⟩],
    .silent ⟨["commit", "--quiet", "--message", ⟨request.location, .request⟩],
      if author = "" then [] else [("GIT_AUTHOR_NAME", author)]⟩,
    .printed ["rev-parse", "HEAD"]]

/-- The run that discards what was changed. -/
def resetStep : Step := .printed ["reset", "--hard", "--quiet"]

/-- The run that checks out again what was checked out before. -/
def Place.restoreStep : Place → Step
  | .branch name => .printed ["checkout", "--quiet", name]
  | .detached commit => .printed ["checkout", "--quiet", "--detach", commit]

/-- The runs that take a fetch back. -/
def takeBackSteps (request : Request) (place : Place) : List Step :=
  [resetStep, place.restoreStep, .printed ["branch", "-D", ⟨request.branch, .request⟩]]

/-- The patch is committed on the branch; when a run of this fails, the fetch is taken back. -/
def commitOrTakeBack (request : Request) (prepared : Prepared) : Talk Error CommitHash :=
  ExceptT.mk do
    match ← (inOrder (commitSteps request prepared.patch
      (prepared.metadata.author.getD ""))).run with
    | .ok commit => return .ok ⟨commit⟩
    | .error error =>
      let _ ← (inOrder (takeBackSteps request prepared.place)).run
      return .error (.repository error)

/-- The branch is made, and the patch committed on it. -/
def bring (request : Request) (prepared : Prepared) : Talk Error Fetched := do
  let _ ← (branchStep request prepared.start).take.mapError .repository
  let commit ← commitOrTakeBack request prepared
  return ⟨prepared.metadata, ⟨prepared.start.commit, prepared.origin⟩, ⟨request.branch⟩, commit⟩

/-- All runs of a fetch, when the download has the given outcome. -/
def pipeline (request : Request) (download : Except Error (Metadata × PatchFile)) :
    Talk Error Fetched := do
  bring request (← prepare request download)

end Webrev.Git
