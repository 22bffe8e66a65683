import Webrev.Proofs.Generation.Inquiry
import Webrev.Proofs.Repository.Replay

/-!
# Plans from what is known

A repository that answers every question in the same way, whatever was asked before, is given by its
answers. A plan then is a function of the options, of the process and of these answers, in which no
world occurs. Since a plan is made by going through a tree of questions, it is enough to make it in
the world in which nothing can change.

## Main definitions

* `Answers` : an answer for every question.
* `Queries.Knows` : answers that do not hang on what was asked before.
* `Answers.plan` : the plan that the answers make.
* `Memory.simple`, `Plan.planFor` : a simple repository in memory, and a plan for it.

## Main results

* `Plan.Inquiry.fst_runAt_of_knows` : the outcome of an inquiry hangs on the answers alone.
* `Plan.fst_make_of_knows` : the plan is the one that the answers make.
-/

namespace Webrev

variable {ω : Type}

/-- An answer for every question. -/
abbrev Answers := (question : Query) → question.Answer

namespace Queries

/-- The world after some questions. -/
def after (queries : Queries ω) (world : ω) (asked : List Query) : ω :=
  asked.foldl (fun world question => ((queries.query question).runAt world).2) world

/-- Whatever was asked before, a question has the known answer. -/
def Knows (queries : Queries ω) (world : ω) (known : Answers) : Prop :=
  ∀ asked question,
    ((queries.query question).runAt (queries.after world asked)).1 = .ok (known question)

/-- Answers in a world in which nothing can change. -/
def constant (known : Answers) : Queries Unit where
  query question := pure (known question)

theorem Knows.runAt {queries : Queries ω} {world : ω} {known : Answers}
    (h : queries.Knows world known) (question : Query) :
    ∃ next, (queries.query question).runAt world = (.ok (known question), next) ∧
      queries.Knows next known :=
  ⟨((queries.query question).runAt world).2, Prod.ext (h [] question) rfl,
    fun asked => h (question :: asked)⟩

end Queries

/-- A repository in memory that never fails knows its answers. -/
theorem Memory.knows {memory : Memory} (h : memory.failure = fun _ _ => none) :
    Memory.repository.toQueries.Knows memory memory.answer := by
  intro asked
  induction asked generalizing memory with
  | nil =>
    intro question
    have hcall : (call (.query question)).runAt memory = (.ok (), memory.put (.query question)) :=
      runAt_call_of_no_failure (by rw [h])
    rw [← answer_knowledge, ← answer_put memory (.query question)]
    exact congrArg Prod.fst (Attempt.runAt_bind_of_ok hcall)
  | cons first asked ih =>
    have hfirst : ((Memory.repository.query first).runAt memory).2 = memory.put (.query first) := by
      rcases runAt_query_cases first memory with ⟨fault, hr⟩ | hr <;> rw [hr]
    intro question
    have hrest := @ih (memory.put (.query first)) h question
    rw [answer_put, answer_knowledge, ← hfirst] at hrest
    exact hrest

/-! ### Inquiries -/

/-- The outcome of an inquiry hangs on the answers alone. -/
theorem Plan.Inquiry.fst_runAt_of_knows {α : Type} (inquiry : Inquiry α) {queries : Queries ω}
    {known : Answers} {world : ω} (h : queries.Knows world known) :
    ((inquiry.run queries).runAt world).1 =
      ((inquiry.run (Queries.constant known)).runAt ()).1 := by
  induction inquiry generalizing world with
  | done outcome => rfl
  | ask question next ih =>
    obtain ⟨world', hanswer, hknows⟩ := h.runAt question
    have hstep : Attempt.runAt ((queries.query question).mapError (Error.ofQuery question)) world =
        (.ok (known question), world') := by
      rw [Attempt.runAt_mapError, hanswer]
      rfl
    have hconstant : Attempt.runAt (((Queries.constant known).query question).mapError
        (Error.ofQuery question)) () = (.ok (known question), ()) := rfl
    rw [run, run, Attempt.runAt_bind_of_ok hstep, Attempt.runAt_bind_of_ok hconstant, ih _ hknows]

/-! ### The parts of a plan -/

namespace Answers

variable (known : Answers) (options : Plan.Options) (baseRef : String) (defaults : Plan.Defaults)

/-- A setting. -/
def setting (flag : Option String) (name : String) : Option String :=
  flag.or (Setting.theOnly (known (.config (Setting.key name))))

/-- The published repository. -/
def repository : Option String :=
  (known.setting options.repository "repository").or
    (Option.bind (known (.pullPath "origin")) Plan.publishedAs?)

/-- The remote is not compared against. -/
def noOutgoing : Bool :=
  options.noOutgoing ||
    (Setting.theOnly (known (.config (Setting.key "no-outgoing")))).any Plan.isEnabled

/-- The revision that the working copy is compared against. -/
def revision : String :=
  options.rev.getD (if known.noOutgoing options then "HEAD" else baseRef)

/-- The commit that a revision denotes. -/
def commitOf (reference : String) : Except ResolveError CommitHash :=
  match known (.resolve reference) with
  | some commit => .ok commit
  | none => .error (.unresolvableReference reference)

/-- The commit that the working copy is compared against. -/
def base : Except Plan.Error CommitHash :=
  (known.commitOf (known.revision options baseRef)).mapError .resolve

/-- The page of the issue. -/
def issue : Option String :=
  (options.cr.map Issue.ofFlag).or
    (Option.bind (known .currentBranch) fun branch => Issue.ofBranch? branch.name)

/-- Who makes the webrev. -/
def username : Option String :=
  (known.setting options.username "username").or (Option.or (known .username) defaults.userName)

/-- The plan that the answers make against a commit. -/
def planAt (base : CommitHash) : Plan where
  base
  output := FilePath.join defaults.cwd
    ((known.setting options.output "output").getD Plan.defaultOutput)
  title := Plan.titleOf options.title (known.issue options) (known.repository options) defaults.cwd
  repository := known.repository options
  username := known.username options defaults
  issue := known.issue options
  version := programVersion

/-- The plan that the answers make. -/
def plan : Except Plan.Error Plan :=
  (known.base options baseRef).map (known.planAt options defaults)

variable {known options baseRef defaults}

theorem plan_eq_planAt {commit : CommitHash}
    (h : known (.resolve (known.revision options baseRef)) = some commit) :
    known.plan options baseRef defaults = .ok (known.planAt options defaults commit) := by
  rw [plan, base, commitOf, h]
  rfl

theorem eq_planAt_of_plan {plan : Plan} (h : known.plan options baseRef defaults = .ok plan) :
    known.base options baseRef = .ok plan.base ∧
      plan = known.planAt options defaults plan.base := by
  unfold Answers.plan at h
  cases hbase : known.base options baseRef with
  | error error =>
    rw [hbase] at h
    cases h
  | ok base =>
    rw [hbase] at h
    obtain rfl := Except.ok.inj h
    exact ⟨rfl, rfl⟩

end Answers

namespace Plan

variable (known : Answers) (options : Options) (baseRef : String) (defaults : Defaults)

theorem mapError_constant {ε : Type} (f : RepositoryError → ε) (question : Query) :
    ((Queries.constant known).query question).mapError f = pure (known question) := rfl

theorem readSetting_constant (flag : Option String) (name : String) :
    readSetting (Queries.constant known) flag name = pure (known.setting flag name) := by
  cases flag <;> rfl

theorem readRepository_constant :
    readRepository (Queries.constant known) options = pure (known.repository options) := by
  rw [readRepository, readSetting_constant, pure_bind, Answers.repository]
  cases known.setting options.repository "repository" <;> rfl

theorem readNoOutgoing_constant :
    readNoOutgoing (Queries.constant known) options = pure (known.noOutgoing options) := by
  rw [readNoOutgoing, Answers.noOutgoing]
  cases options.noOutgoing <;> rfl

theorem commitOf_constant (reference : String) :
    (Queries.constant known).commitOf reference = Attempt.ofExcept (known.commitOf reference) := by
  rw [Queries.commitOf, mapError_constant, pure_bind, Answers.commitOf]
  rcases known (.resolve reference) with _ | commit <;> rfl

theorem readBase_constant :
    readBase (Queries.constant known) options baseRef =
      Attempt.ofExcept (known.base options baseRef) := by
  rw [readBase, readNoOutgoing_constant, pure_bind, commitOf_constant]
  rfl

theorem readIssue_constant :
    readIssue (Queries.constant known) options = pure (known.issue options) := by
  rw [readIssue, Answers.issue]
  cases options.cr <;> rfl

theorem readUsername_constant :
    readUsername (Queries.constant known) options defaults =
      pure (known.username options defaults) := by
  rw [readUsername, readSetting_constant, pure_bind, Answers.username]
  cases known.setting options.username "username" <;> rfl

theorem make_constant :
    make (Queries.constant known) options baseRef defaults =
      Attempt.ofExcept (known.plan options baseRef defaults) := by
  simp only [make, readRepository_constant, readBase_constant, readIssue_constant,
    readSetting_constant, readUsername_constant, pure_bind, Answers.plan]
  cases known.base options baseRef <;> rfl

/-- The plan is the one that the answers make. -/
theorem fst_make_of_knows {queries : Queries ω} {known : Answers} {world : ω}
    (h : queries.Knows world known) :
    ((make queries options baseRef defaults).runAt world).1 =
      known.plan options baseRef defaults := by
  obtain ⟨inquiry, hinquiry⟩ := asks_make options defaults baseRef
  dsimp only at hinquiry
  rw [hinquiry, inquiry.fst_runAt_of_knows h, ← hinquiry, make_constant, Attempt.runAt_ofExcept]

end Plan

/-! ### Simple repositories -/

/-- A repository that never fails and knows the revision `HEAD`, with a branch checked out and a
configuration. -/
def Memory.simple (current : Option Branch) (config : List (String × List String)) : Memory :=
  ⟨[("HEAD", ⟨"c1"⟩)], [], current, config, true, [], none, ⟨"c2"⟩, fun _ _ => none, []⟩

theorem Memory.knows_simple (current : Option Branch) (config : List (String × List String)) :
    Memory.repository.toQueries.Knows (simple current config) (simple current config).answer :=
  Memory.knows rfl

namespace Plan

/-- The plan for a repository in memory, made in the directory `/w`. -/
def planFor (memory : Memory) (options : Options) : Except Error Plan :=
  ((make Memory.repository.toQueries options "upstream" ⟨"/w", none⟩).runAt memory).1

theorem exists_planFor_simple {options : Options} (current : Option Branch)
    (config : List (String × List String)) (hrev : options.rev = none)
    (hlocal : options.noOutgoing = true) :
    ∃ plan, planFor (.simple current config) options = .ok plan := by
  have hrevision : Answers.revision (Memory.simple current config).answer options "upstream" =
      "HEAD" := by
    rw [Answers.revision, hrev, Answers.noOutgoing, hlocal]
    rfl
  have hcommit : (Memory.simple current config).answer (.resolve "HEAD") = some ⟨"c1"⟩ := rfl
  rw [← hrevision] at hcommit
  exact ⟨_, (fst_make_of_knows _ _ _ (Memory.knows_simple current config)).trans
    (Answers.plan_eq_planAt hcommit)⟩

end Plan

end Webrev
