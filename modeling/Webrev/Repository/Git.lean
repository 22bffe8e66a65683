import Webrev.Machine.Process
import Webrev.Repository.Basic
import Webrev.Text.Blank
import Webrev.Text.Lines

/-!
# Repositories behind a program

A working copy that is asked and told things by running `git` in it. What the program writes is read
as text, blanks at its ends not counting; a run that fails is described by what it wrote, and else by
its status.

## Main definitions

* `Git.discover` : the working copy that a directory lies in.
* `Git.repository` : the repository of a working copy.
-/

namespace Webrev.Git

/-- A run of `git`. -/
def run (directory : Option String) (args : List String) (environment : List (String × String)) :
    Attempt Machine RepositoryError Machine.Reply :=
  ExceptT.mk fun machine =>
    let (outcome, machine) := machine.run ⟨"git", args, directory, environment⟩
    (outcome.mapError .notRun, machine)

/-- What a run wrote, as text. -/
def textOf (octets : List UInt8) : Except RepositoryError (List Char) :=
  (Utf8.decode octets).mapError .malformedOutput

/-- What a run wrote, without the blanks at its ends. -/
def trimmedText (octets : List UInt8) : Except RepositoryError String :=
  (textOf octets).map fun text => String.ofList (Text.trim text)

/-- A run that failed, described by what it wrote, and else by its status. -/
def failed (args : List String) (reply : Machine.Reply) : RepositoryError :=
  let err := Text.trim (Utf8.decodeLossy reply.err)
  let out := Text.trim (Utf8.decodeLossy reply.out)
  .commandFailed (args.head?.getD "")
    (if err ≠ [] then String.ofList err
    else if out ≠ [] then String.ofList out
    else reply.status.text)

/-- What a run wrote, if it ended well. -/
def checked (root : String) (args : List String) : Attempt Machine RepositoryError String := do
  let reply ← run (some root) args []
  if reply.status.isSuccess then Attempt.ofExcept (trimmedText reply.out)
  else throw (failed args reply)

/-- The root of the working copy that a directory lies in. -/
def discover (path : String) : Attempt Machine RepositoryError String := do
  let reply ← run none ["-C", path, "rev-parse", "--show-toplevel"] []
  if reply.status.isSuccess then Attempt.ofExcept (trimmedText reply.out)
  else throw (.notARepository path)

/-! ### Questions -/

/-- A text that `git` would take for an option, or that denotes nothing. -/
def isNoReference (reference : String) : Bool :=
  reference.isEmpty || reference.toList.head? == some '-'

/-- The commit that a revision denotes. -/
def resolve (root reference : String) : Attempt Machine RepositoryError (Option CommitHash) := do
  if isNoReference reference then return none
  let reply ← run (some root)
    ["rev-parse", "--verify", "--quiet", reference ++ "^\x7bcommit\x7d"] []
  if reply.status.isSuccess then
    return some ⟨← Attempt.ofExcept (trimmedText reply.out)⟩
  else return none

/-- The local branches. -/
def branches (root : String) : Attempt Machine RepositoryError (List Branch) := do
  let out ← checked root ["for-each-ref", "--format=%(refname:short)", "refs/heads/"]
  return ((Text.lines out.toList).filter (· ≠ [])).map fun line => ⟨String.ofList line⟩

/-- The branch that is checked out. -/
def currentBranch (root : String) : Attempt Machine RepositoryError (Option Branch) := do
  let reply ← run (some root) ["symbolic-ref", "--quiet", "--short", "HEAD"] []
  if reply.status.isSuccess then
    let name ← Attempt.ofExcept (trimmedText reply.out)
    return if name.isEmpty then none else some ⟨name⟩
  else return none

/-- The values of a configuration key. The status 1 says that the key has none. -/
def config (root key : String) : Attempt Machine RepositoryError (List String) := do
  let args := ["config", "--get-all", key]
  let reply ← run (some root) args []
  if reply.status = .exited 0 then
    let text ← Attempt.ofExcept (textOf reply.out)
    return (Text.lines text).map String.ofList
  else if reply.status = .exited 1 then return []
  else throw (failed args reply)

/-- The answer to a question about the working copy at `root`. -/
def query (root : String) : (query : Query) → Attempt Machine RepositoryError query.Answer
  | .resolve reference => resolve root reference
  | .branches => branches root
  | .currentBranch => currentBranch root
  | .config key => config root key
  | .isClean => return (← checked root ["status", "--porcelain"]).isEmpty
  | .pullPath remote => return (← config root ("remote." ++ remote ++ ".url")).head?
  | .username => return (← config root "user.name").head?

/-! ### Changes -/

/-- What the environment of a commit says about its author. -/
def authorEnvironment (name email : String) : List (String × String) :=
  (if name.isEmpty then [] else [("GIT_AUTHOR_NAME", name)]) ++
    if email.isEmpty then [] else [("GIT_AUTHOR_EMAIL", email)]

/-- The commit of what is staged. -/
def commit (root message name email : String) : Attempt Machine RepositoryError CommitHash := do
  let args := ["commit", "--quiet", "--message", message]
  let reply ← run (some root) args (authorEnvironment name email)
  if reply.status.isSuccess then return ⟨← checked root ["rev-parse", "HEAD"]⟩
  else throw (failed args reply)

/-- What the working copy at `root` gives back when it is told to do something. -/
def mutate (root : String) :
    (mutation : Mutation) → Attempt Machine RepositoryError mutation.Answer
  | .branch target name => do
    let _ ← checked root ["branch", name, target.text]
    return (⟨name⟩ : Branch)
  | .checkout branch => do
    let _ ← checked root ["checkout", "--quiet", branch.name]
    return ()
  | .detach target => do
    let _ ← checked root ["checkout", "--quiet", "--detach", target.text]
    return ()
  | .discardChanges => do
    let _ ← checked root ["reset", "--hard", "--quiet"]
    return ()
  | .apply patch allowPartial => do
    let _ ← checked root
      (["apply", "--index"] ++ (if allowPartial then ["--reject"] else []) ++ [patch.path])
    return ()
  | .commit message name email => commit root message name email
  | .deleteBranch branch => do
    let _ ← checked root ["branch", "-D", branch.name]
    return ()

/-- The repository of the working copy at `root`. -/
def repository (root : String) : Repository Machine where
  query := query root
  mutate := mutate root

end Webrev.Git
