import Webrev.Repository.Basic

/-!
# Repositories in memory

A repository that is given by what it knows. It keeps an account of what it is asked and told, and
any of its calls may be made to fail; a call that fails changes nothing.

## Main definitions

* `Method` : a call without its arguments.
* `Memory` : what a repository knows, which of its calls fail, and the calls so far.
* `Memory.repository` : the repository.
-/

namespace Webrev

/-- A call without its arguments. -/
inductive Method where
  | resolve
  | branches
  | currentBranch
  | config
  | isClean
  | pullPath
  | username
  | branch
  | checkout
  | detach
  | discardChanges
  | apply
  | commit
  | deleteBranch
  deriving DecidableEq, Repr

/-- A call without its arguments. -/
def Call.method : Call → Method
  | .query (.resolve _) => .resolve
  | .query .branches => .branches
  | .query .currentBranch => .currentBranch
  | .query (.config _) => .config
  | .query .isClean => .isClean
  | .query (.pullPath _) => .pullPath
  | .query .username => .username
  | .mutation (.branch ..) => .branch
  | .mutation (.checkout _) => .checkout
  | .mutation (.detach _) => .detach
  | .mutation .discardChanges => .discardChanges
  | .mutation (.apply ..) => .apply
  | .mutation (.commit ..) => .commit
  | .mutation (.deleteBranch _) => .deleteBranch

/-- What a repository knows, which of its calls fail, and the calls so far. Whether a call fails
hangs on its method and on the number of calls to that method, itself included. -/
structure Memory where
  refs : List (String × CommitHash)
  branches : List Branch
  current : Option Branch
  config : List (String × List String)
  clean : Bool
  remotes : List (String × String)
  userName : Option String
  newCommit : CommitHash
  failure : Method → Nat → Option RepositoryError
  calls : List Call

namespace Memory

/-- The number of calls to a method so far. -/
def count (memory : Memory) (method : Method) : Nat :=
  memory.calls.countP fun call => call.method = method

/-- A call, which is put down and may fail. -/
def call (c : Call) : Attempt Memory RepositoryError Unit :=
  ExceptT.mk fun memory =>
    let memory := { memory with calls := memory.calls ++ [c] }
    match memory.failure c.method (memory.count c.method) with
    | some fault => (.error fault, memory)
    | none => (.ok (), memory)

/-- The answer to a question. -/
def answer (memory : Memory) : (query : Query) → query.Answer
  | .resolve reference => memory.refs.lookup reference
  | .branches => memory.branches
  | .currentBranch => memory.current
  | .config key => (memory.config.lookup key).getD []
  | .isClean => memory.clean
  | .pullPath remote => memory.remotes.lookup remote
  | .username => memory.userName

/-- What a repository gives back when it does what it is told. -/
def result (memory : Memory) : (mutation : Mutation) → mutation.Answer
  | .branch _ name => (⟨name⟩ : Branch)
  | .commit .. => memory.newCommit
  | .checkout _ | .detach _ | .discardChanges | .apply .. | .deleteBranch _ => ()

/-- What a repository knows after it has done what it is told. -/
def after (memory : Memory) : Mutation → Memory
  | .branch _ name => { memory with branches := memory.branches ++ [⟨name⟩] }
  | .checkout branch => { memory with current := some branch }
  | .detach _ => { memory with current := none }
  | .deleteBranch branch => { memory with branches := memory.branches.filter (· ≠ branch) }
  | .discardChanges | .apply .. | .commit .. => memory

/-- The repository that is given by what it knows. -/
def repository : Repository Memory where
  query q := do
    call (.query q)
    return (← get).answer q
  mutate m := do
    call (.mutation m)
    let memory ← get
    set (memory.after m)
    return memory.result m

end Memory

end Webrev
