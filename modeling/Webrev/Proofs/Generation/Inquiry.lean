import Webrev.Generation.Plan
import Webrev.Proofs.Attempt
import Mathlib.Tactic.Choose

/-!
# The questions of a plan

Which question is asked next for a plan hangs on the options and on the answers so far. An inquiry
is the tree of all questions, with a branch for each answer; it knows no repository and no world. A
plan is made by going through such a tree, so whatever going through a tree does, for every tree,
the making of a plan does.

A question that fails ends the inquiry. What is then said hangs on the question alone: a revision
that could not be looked up is told apart from everything else.

## Main definitions

* `Plan.Error.ofQuery` : why there is no plan when a question fails.
* `Plan.Inquiry` : the tree of all questions.
* `Plan.Inquiry.run` : the way through a tree that the answers of a repository lead.
* `Plan.Asks` : a step that goes through a tree.

## Main results

* `Plan.Inquiry.run_bind` : inquiries are composed as steps are.
* `Plan.asks_make` : a plan is made by going through a tree.
-/

namespace Webrev.Plan

/-- Why there is no plan when a question fails. -/
def Error.ofQuery : Query → RepositoryError → Error
  | .resolve _, error => .resolve (.repository error)
  | _, error => .repository error

/-- All questions on the way to something, with a branch for each answer. -/
inductive Inquiry (α : Type) where
  | done (outcome : Except Error α)
  | ask (query : Query) (next : query.Answer → Inquiry α)

variable {ω α β : Type}

namespace Inquiry

/-- The way that the answers of a repository lead. -/
def run (queries : Queries ω) : Inquiry α → Attempt ω Error α
  | .done outcome => Attempt.ofExcept outcome
  | .ask query next => do
    let answer ← (queries.query query).mapError (Error.ofQuery query)
    (next answer).run queries

/-- An inquiry after another. -/
def bind : Inquiry α → (α → Inquiry β) → Inquiry β
  | .done (.ok a), next => next a
  | .done (.error error), _ => .done (.error error)
  | .ask query rest, next => .ask query fun answer => (rest answer).bind next

/-- Inquiries are composed as steps are. -/
theorem run_bind (queries : Queries ω) (inquiry : Inquiry α) (next : α → Inquiry β) :
    (inquiry.bind next).run queries = inquiry.run queries >>= fun a => (next a).run queries := by
  induction inquiry with
  | done outcome => cases outcome <;> rfl
  | ask query rest ih =>
    simp only [bind, run, bind_assoc, ih]

end Inquiry

/-! ### Steps that ask -/

/-- A step that goes through the same tree whatever repository it asks. -/
def Asks (step : {ω : Type} → Queries ω → Attempt ω Error α) : Prop :=
  ∃ inquiry : Inquiry α, ∀ {ω : Type} (queries : Queries ω), step queries = inquiry.run queries

namespace Asks

theorem pure (a : α) : Asks fun _ => Pure.pure a := ⟨.done (.ok a), fun _ => rfl⟩

theorem throw (error : Error) : Asks fun _ => (MonadExcept.throw error : Attempt _ Error α) :=
  ⟨.done (.error error), fun _ => rfl⟩

/-- A step that asks one question. -/
theorem query (query : Query) :
    Asks fun queries => (queries.query query).mapError (Error.ofQuery query) := by
  refine ⟨.ask query fun answer => .done (.ok answer), fun queries => ?_⟩
  exact (bind_pure _).symm

theorem bind {step : {ω : Type} → Queries ω → Attempt ω Error α}
    {next : {ω : Type} → Queries ω → α → Attempt ω Error β} (h : Asks step)
    (hnext : ∀ a, Asks fun queries => next queries a) :
    Asks fun queries => step queries >>= next queries := by
  obtain ⟨inquiry, hstep⟩ := h
  choose rest hrest using hnext
  refine ⟨inquiry.bind rest, fun queries => ?_⟩
  rw [Inquiry.run_bind, ← hstep]
  exact congrArg (step queries >>= ·) (funext fun a => hrest a queries)

theorem congr {step step' : {ω : Type} → Queries ω → Attempt ω Error α} (h : Asks step)
    (heq : ∀ {ω : Type} (queries : Queries ω), step queries = step' queries) : Asks step' := by
  obtain ⟨inquiry, hstep⟩ := h
  exact ⟨inquiry, fun queries => (heq queries).symm.trans (hstep queries)⟩

end Asks

/-! ### The parts of a plan -/

variable (options : Options) (defaults : Defaults)

theorem asks_readSetting (flag : Option String) (name : String) :
    Asks fun queries => readSetting queries flag name := by
  cases flag with
  | some value => exact .pure (some value)
  | none =>
    refine ((Asks.query (.config (Setting.key name))).bind fun values : List String =>
      .pure (Setting.theOnly values)).congr fun queries => ?_
    exact (Attempt.mapError_bind Error.repository (queries.query (.config (Setting.key name)))
      fun values : List String => pure (Setting.theOnly values)).symm

theorem asks_readRepository : Asks fun queries => readRepository queries options := by
  refine (asks_readSetting options.repository "repository").bind fun setting => ?_
  cases setting with
  | some repository => exact .pure _
  | none => exact (Asks.query (.pullPath "origin")).bind fun _ => .pure _

theorem asks_readNoOutgoing : Asks fun queries => readNoOutgoing queries options := by
  unfold readNoOutgoing
  split
  · exact .pure true
  · exact (Asks.query (.config (Setting.key "no-outgoing"))).bind fun _ => .pure _

theorem asks_commitOf (reference : String) :
    Asks fun queries => (queries.commitOf reference).mapError .resolve := by
  have hfound : ∀ commit : Option CommitHash, Asks fun {ω} _ =>
      (show Attempt ω Error CommitHash from
        match commit with
        | some commit => pure commit
        | none => throw (.resolve (.unresolvableReference reference))) := by
    rintro (_ | commit)
    · exact .throw _
    · exact .pure commit
  refine ((Asks.query (.resolve reference)).bind hfound).congr fun queries => ?_
  rw [Queries.commitOf, Attempt.mapError_bind, Attempt.mapError_mapError]
  refine congrArg _ (funext fun commit => ?_)
  cases commit <;> rfl

theorem asks_readBase (baseRef : String) : Asks fun queries => readBase queries options baseRef :=
  (asks_readNoOutgoing options).bind fun _ => asks_commitOf _

theorem asks_readIssue : Asks fun queries => readIssue queries options := by
  unfold readIssue
  split
  · exact .pure _
  · exact (Asks.query .currentBranch).bind fun _ => .pure _

theorem asks_readUsername : Asks fun queries => readUsername queries options defaults := by
  refine (asks_readSetting options.username "username").bind fun setting => ?_
  cases setting with
  | some name => exact .pure _
  | none => exact (Asks.query .username).bind fun _ => .pure _

/-- A plan is made by going through a tree of questions. -/
theorem asks_make (baseRef : String) :
    Asks fun queries => make queries options baseRef defaults :=
  (asks_readRepository options).bind fun _ => (asks_readBase options baseRef).bind fun _ =>
    (asks_readIssue options).bind fun _ => (asks_readSetting options.output "output").bind fun _ =>
      (asks_readUsername options defaults).bind fun _ => .pure _

end Webrev.Plan
