import Webrev.Proofs.Git.ForeignWords
import Webrev.Proofs.Text.Scan

/-!
# When a fetch is taken back

Everything that is asked before the branch is made only looks at the working copy. From then on the
questions are those of a commit, and when one of them fails, those of the taking back. So the runs
of a fetch are told by the first run of `git branch`: where it stands, how it ended and what comes
after it. A run that ended well has made the branch; a fetch knows it only from a run that wrote a
text as well.

## Main definitions

* `Git.Brings` : what is asked from the branch on, and to take the fetch back.

## Main results

* `Git.cases_of_way_pipeline` : what is asked before the branch is made, and after that.
* `Git.prepares_or_brings_of_way_pipeline` : in which order, and up to where.
* `Git.fetch_refines_pipeline` : a fetch runs its pipeline.
* `Git.reset_follows_iff` : what comes after a run that made the branch, when the fetch fails.
-/

namespace Webrev.Git

open Integration

/-! ### On a way through the pipeline -/

section Ways

variable {request : Request} {found : Except Error (Metadata × PatchFile)}
  {exchanges : List Exchange} {outcome : Except Error Fetched}

/-- What is asked from the branch on, and to take the fetch back. Both end with the first step that
fails; and there is something to take back exactly if the new branch was to be checked out and the
fetch fails all the same. -/
structure Brings (request : Request) (prepared : Prepared) (made undone : List Exchange)
    (succeeded : Bool) : Prop where
  made_begins : made.map Exchange.question <+: (branchStep request prepared.start ::
    commitSteps request prepared.patch (prepared.metadata.author.getD "")).map Step.question
  made_whole : succeeded → made.map Exchange.question = (branchStep request prepared.start ::
    commitSteps request prepared.patch (prepared.metadata.author.getD "")).map Step.question
  undone_begins : undone.map Exchange.question <+:
    (takeBackSteps request prepared.place).map Step.question
  undone_ne_nil_iff : undone ≠ [] ↔ 2 ≤ made.length ∧ succeeded = false

theorem forall_isLook_of_way_prepare {last : Except Error Prepared}
    (h : (prepare request found).run.Way exchanges last) :
    ∀ exchange ∈ exchanges, exchange.question.IsLook :=
  fun exchange he => ((Talk.Keeps.prepare request found _ _ h).1 exchange he).2

/-- A fetch is over before the branch is made; or it makes the branch, and then it is over, or a
commit follows. -/
theorem cases_of_way_pipeline (h : (pipeline request found).run.Way exchanges outcome) :
    (∃ e, outcome = .error e ∧ (prepare request found).run.Way exchanges (.error e)) ∨
      ∃ prepared asked answer rest,
        exchanges = asked ++ ⟨(branchStep request prepared.start).question, answer⟩ :: rest ∧
        (prepare request found).run.Way asked (.ok prepared) ∧
        ((∃ e, (branchStep request prepared.start).outcome answer = .error e ∧
            outcome.isOk = false ∧ rest = []) ∨
          ∃ text committed, (branchStep request prepared.start).outcome answer = .ok text ∧
            outcome.isOk = committed.isOk ∧
            (commitOrTakeBack request prepared).run.Way rest committed) := by
  rcases way_bind_iff.mp h with ⟨e, rfl, hfailed⟩ | ⟨prepared, asked, back, rfl, hasked, hback⟩
  · exact .inl ⟨e, rfl, hfailed⟩
  · obtain ⟨answer, rest, rfl, hrest⟩ := exists_of_way_bring hback
    refine .inr ⟨prepared, asked, answer, rest, rfl, hasked, ?_⟩
    rcases hrest with ⟨e, hbranch, rfl, rfl⟩ | hrest
    · exact .inl ⟨e, hbranch, rfl, rfl⟩
    · exact .inr hrest

/-- When a commit fails the changes are discarded. -/
theorem exists_reset_of_way_commitOrTakeBack {prepared : Prepared}
    {committed : Except Error CommitHash}
    (h : (commitOrTakeBack request prepared).run.Way exchanges committed)
    (hfailed : committed.isOk = false) :
    ∃ exchange ∈ exchanges, exchange.question = resetStep.question := by
  rcases way_commitOrTakeBack_iff.mp h with
    ⟨commit, rfl, -⟩ | ⟨e, front, rest, undone, rfl, rfl, -, hrest⟩
  · exact nomatch hfailed
  · obtain ⟨answer, more, rfl⟩ := exists_of_way_inOrder hrest
    exact ⟨_, List.mem_append_right _ List.mem_cons_self, rfl⟩

/-- The branch, its commit, and what takes the fetch back. -/
theorem exists_brings_of_way_commitOrTakeBack {prepared : Prepared} {answer : Answer}
    {committed : Except Error CommitHash}
    (h : (commitOrTakeBack request prepared).run.Way exchanges committed) :
    ∃ made undone, exchanges = made ++ undone ∧ Brings request prepared
      (⟨(branchStep request prepared.start).question, answer⟩ :: made) undone committed.isOk := by
  rcases way_commitOrTakeBack_iff.mp h with
    ⟨commit, rfl, hway⟩ | ⟨e, front, rest, undone, rfl, rfl, hfront, hrest⟩
  · have hquestions := (questions_of_way_inOrder hway).2 rfl
    refine ⟨exchanges, [], (List.append_nil exchanges).symm, ?_, ?_, List.nil_prefix, ?_⟩
    · exact (List.prefix_cons_inj _).mpr (hquestions ▸ List.prefix_rfl)
    · exact fun _ => congrArg (_ :: ·) hquestions
    · exact iff_of_false (fun hne => hne rfl) fun hfailed => nomatch hfailed.2
  · have hmade : 2 ≤ (⟨(branchStep request prepared.start).question, answer⟩ :: front).length := by
      obtain ⟨first, more, rfl⟩ := exists_of_way_inOrder hfront
      simp
    have hundone : rest ≠ [] := by
      obtain ⟨first, more, rfl⟩ := exists_of_way_inOrder hrest
      simp
    refine ⟨front, rest, rfl, ?_, nofun, (questions_of_way_inOrder hrest).1, ?_⟩
    · exact (List.prefix_cons_inj _).mpr (questions_of_way_inOrder hfront).1
    · exact iff_of_true hundone ⟨hmade, rfl⟩

/-- A fetch fails in its preparation; or the branch is to be made, and what follows is what brings
the patch there and, if need be, what takes the fetch back. -/
theorem prepares_or_brings_of_way_pipeline
    (h : (pipeline request found).run.Way exchanges outcome) :
    (∃ e, outcome = .error e ∧ (prepare request found).run.Way exchanges (.error e)) ∨
      ∃ prepared asked made undone, exchanges = asked ++ (made ++ undone) ∧
        (prepare request found).run.Way asked (.ok prepared) ∧
        Brings request prepared made undone outcome.isOk := by
  rcases cases_of_way_pipeline h with hfailed |
    ⟨prepared, asked, answer, rest, rfl, hasked, ⟨e, -, hfailed, rfl⟩ |
      ⟨text, committed, -, hok, hrest⟩⟩
  · exact .inl hfailed
  · refine .inr ⟨prepared, asked, [_], [], rfl, hasked, ?_, ?_, List.nil_prefix, ?_⟩
    · exact (List.prefix_cons_inj _).mpr List.nil_prefix
    · exact fun hsucceeded => nomatch hfailed.symm.trans hsucceeded
    · simp
  · obtain ⟨made, undone, rfl, hbrings⟩ := exists_brings_of_way_commitOrTakeBack hrest
    exact .inr ⟨prepared, asked, _ :: made, undone, rfl, hasked, hok ▸ hbrings⟩

end Ways

/-! ### In the runs of a fetch -/

/-- A question without a NUL makes a run where another one does. -/
theorem exists_run?_of_run? {root : String} {machine : Machine} {question : Question}
    {run : Machine.Run} (h : question.run? root machine = some run) (other : Question)
    (hother : (other.args.any Machine.hasNul ||
      other.environment.any fun entry => Machine.hasNul entry.2) = false) :
    ∃ run, other.run? root machine = some run := by
  obtain ⟨hnul, directory, place, hdirectory, hplace, -⟩ :=
    locateCommand_ok_iff.mp (run?_eq_some_iff.mp h)
  refine ⟨_, run?_eq_some_iff.mpr (locateCommand_ok_iff.mpr
    ⟨?_, directory, place, hdirectory, hplace, rfl⟩)⟩
  simp only [Machine.Command.hasNul, Question.command, Bool.or_eq_false_iff] at hnul hother ⊢
  exact ⟨⟨⟨hnul.1.1.1, hother.1⟩, hnul.1.2⟩, hother.2⟩

/-- No run of questions that change nothing is of another command. -/
theorem head?_ne_of_mem_runsOf {root : String} {machine : Machine} {exchanges : List Exchange}
    (h : ∀ exchange ∈ exchanges, exchange.question.IsLook) {command : String}
    (hc : command ∉ looks) {run : Machine.Run} (hr : run ∈ runsOf root machine exchanges) :
    run.args.head? ≠ some command := by
  obtain ⟨exchange, he, hrun⟩ := List.mem_filterMap.mp hr
  rw [(args_of_run? hrun).1]
  exact (h exchange he).head?_ne hc

/-- The branch is made exactly when a run for it ends well and writes a text. -/
theorem outcome_branchStep_isOk_iff (request : Request) (start : Word) {reply : Machine.Reply}
    (h : reply.status.isSuccess) :
    ((branchStep request start).outcome (.ok reply)).isOk ↔
      ∃ text, Utf8.decode reply.out = .ok text := by
  change ((branchStep request start).read reply).isOk ↔ _
  simp only [branchStep, Step.printed, h, ↓reduceIte, said]
  cases Utf8.decode reply.out with
  | error e => simp [Except.isOk, Except.toBool]
  | ok text => simp [Except.isOk, Except.toBool]

/-- The replies of `git` when the new branch cannot be checked out. -/
def refusingReplies : List Machine.Reply :=
  [printing "", printing "main\n", printing "", ⟨.exited 1, [], []⟩]

/-- The replies of `git` when the patch does not apply, and it says so with its errors. -/
def unappliedReplies : List Machine.Reply :=
  [printing "", printing "main\n", printing "", printing "",
    ⟨.exited 1, Utf8.encode "checking\n".toList, Utf8.encode "error: no such file\n".toList⟩,
    printing "", printing "", printing ""]

/-- The replies of `git` when it writes an octet that is no text once the branch is there. -/
def garbledReplies : List Machine.Reply :=
  [printing "", printing "main\n", ⟨.exited 0, [0xFF], []⟩]

section Fetch

variable (client : Client Http.Session) (root : String) (request : Request)
  (world : Program.World)

/-- **A fetch runs its pipeline.** Whatever the client downloads and whatever `git` replies, a fetch
has the outcome of its pipeline, played on the same machine with the outcome of the download, and
leaves the machine that the play leaves. Its runs are those that the questions of the play make, in
order, with their arguments and their environments; a question makes none only when no program can
be started with it, and that is its answer. The fetch fails in its preparation; or what follows
that are the steps that bring the patch, up to the first that fails, and then those that take the
fetch back, exactly if a step after the one for the branch failed. -/
theorem fetch_refines_pipeline :
    (fetchAt client root request world).1 = (fetchPlay client root request world).outcome ∧
      (fetchAt client root request world).2.machine =
        (fetchPlay client root request world).machine ∧
      (fetchAt client root request world).2.machine.runs = world.machine.runs ++
        runsOf root world.machine (fetchPlay client root request world).exchanges ∧
      (∀ exchange ∈ (fetchPlay client root request world).exchanges,
        (∃ run reply, exchange.question.run? root world.machine = some run ∧
            run.args = exchange.question.args ∧
            run.environment = exchange.question.environment ∧ exchange.answer = .ok reply) ∨
          exchange.question.run? root world.machine = none ∧
            ∃ fault, exchange.answer = .error fault) ∧
      ((∃ e, (fetchAt client root request world).1 = .error e ∧
          (prepare request (downloaded client request world)).run.Way
            (fetchPlay client root request world).exchanges (.error e)) ∨
        ∃ prepared asked made undone,
          (fetchPlay client root request world).exchanges = asked ++ (made ++ undone) ∧
          (prepare request (downloaded client request world)).run.Way asked (.ok prepared) ∧
          Brings request prepared made undone (fetchAt client root request world).1.isOk) := by
  refine ⟨outcome_fetchAt .., machine_fetchAt .., runs_fetchAt .., fun exchange he => ?_, ?_⟩
  · obtain ⟨front, rest, hsplit⟩ := List.append_of_mem he
    have hcourse := course_fetchPlay client root request world
    rw [hsplit] at hcourse
    rcases hcourse.exchange_cases with ⟨run, hrun, hanswer⟩ | hnone
    · exact .inl ⟨run, _, hrun, (args_of_run? hrun).1, (args_of_run? hrun).2, hanswer⟩
    · exact .inr hnone
  · rw [outcome_fetchAt]
    exact prepares_or_brings_of_way_pipeline (way_fetchPlay client root request world)

/-- A patch that does not apply is taken back step by step, and the fetch tells why it does not. -/
theorem fetch_refines_pipeline_of_unapplied :
    (fetchAt (Http.client "agent") "/work" pageRequest (pageWorld "c0" unappliedReplies)).1 =
        .error (.repository (.commandFailed "apply" "error: no such file")) ∧
      (fetchAt (Http.client "agent") "/work" pageRequest
        (pageWorld "c0" unappliedReplies)).2.machine.runs =
        [gitRun ["status", "--porcelain"], gitRun ["symbolic-ref", "--quiet", "--short", "HEAD"],
          gitRun ["branch", "fetched", "c0"], gitRun ["checkout", "--quiet", "fetched"],
          gitRun ["apply", "--index", "/tmp/patch000000.patch"],
          gitRun ["reset", "--hard", "--quiet"], gitRun ["checkout", "--quiet", "main"],
          gitRun ["branch", "-D", "fetched"]] := by
  have hnul : ∀ exchange ∈ (pageAnswered "c0" unappliedReplies).2,
      (exchange.question.command "/work").hasNul = false := by decide +kernel
  obtain ⟨houtcome, hexchanges⟩ := fetchPlay_pageWorld "c0" unappliedReplies hnul
  obtain ⟨hends, -, hruns, -⟩ := fetch_refines_pipeline (Http.client "agent") "/work" pageRequest
    (pageWorld "c0" unappliedReplies)
  rw [hends, houtcome, hruns, hexchanges, runsOf_pageWorld hnul]
  decide +kernel

/-- The first run of `git branch` makes the branch. After it come the runs of a commit, or none. -/
theorem exists_of_first_branch_run {front back : List Machine.Run} {run : Machine.Run}
    (hruns : (fetchAt client root request world).2.machine.runs =
      world.machine.runs ++ (front ++ run :: back))
    (hfront : ∀ earlier ∈ front, earlier.args.head? ≠ some "branch")
    (hbranch : run.args.head? = some "branch") :
    ∃ prepared : Prepared, ∃ outcome rest,
      outcome = (branchStep request prepared.start).outcome
        (.ok (world.machine.replies[front.length]?.getD Machine.silence)) ∧
      (branchStep request prepared.start).question.run? root world.machine = some run ∧
      back = runsOf root world.machine rest ∧
      (outcome.isOk = false ∧ rest = [] ∨ outcome.isOk = true ∧
        ∃ committed, (fetchAt client root request world).1.isOk = committed.isOk ∧
          (commitOrTakeBack request prepared).run.Way rest committed) := by
  rw [runs_fetchAt, List.append_cancel_left_eq] at hruns
  have hmem : run ∈ front ++ run :: back := List.mem_append_right _ List.mem_cons_self
  have hcourse := course_fetchPlay client root request world
  rw [outcome_fetchAt]
  rcases cases_of_way_pipeline (way_fetchPlay client root request world) with ⟨e, -, hfailed⟩ |
    ⟨prepared, asked, answer, rest, hsplit, hasked, hrest⟩
  · have hlooks := forall_isLook_of_way_prepare hfailed
    exact absurd hbranch (head?_ne_of_mem_runsOf hlooks (by decide) (hruns ▸ hmem))
  have hlooks := forall_isLook_of_way_prepare hasked
  rw [hsplit] at hruns hcourse
  rcases hcourse.exchange_cases with ⟨made, hmade, hanswer⟩ | ⟨hnone, fault, hanswer⟩
  · rw [runsOf_append, runsOf_cons_some hmade] at hruns
    obtain ⟨rfl, rfl, rfl⟩ := Scan.append_cons_inj_of_first hruns.symm hfront hbranch
      (fun earlier he => head?_ne_of_mem_runsOf hlooks (by decide) he)
      (congrArg List.head? (args_of_run? hmade).1)
    refine ⟨prepared, _, rest, rfl, hmade, rfl, ?_⟩
    rcases hrest with ⟨e, houtcome, -, rfl⟩ | ⟨text, committed, houtcome, hok, hway⟩
    · exact .inl ⟨by rw [← hanswer, houtcome]; rfl, rfl⟩
    · exact .inr ⟨by rw [← hanswer, houtcome]; rfl, committed, hok, hway⟩
  · -- Without a run for the branch nothing follows, so that there is no such run at all.
    obtain rfl : answer = .error fault := hanswer
    rcases hrest with ⟨e, -, -, rfl⟩ | ⟨text, committed, houtcome, -, -⟩
    · rw [runsOf_append, runsOf_cons_none hnone] at hruns
      have hin : run ∈ runsOf root world.machine asked := by
        rw [← List.append_nil (runsOf root world.machine asked)]
        exact hruns ▸ hmem
      exact absurd hbranch (head?_ne_of_mem_runsOf hlooks (by decide) hin)
    · exact nomatch houtcome

/-- **A branch that was made is taken back.** When the first run of `git branch` ends well and the
fetch fails all the same, the changes are discarded after that run exactly if what it wrote is a
text. If it is none, the branch is there and nothing is taken back. -/
theorem reset_follows_iff {front back : List Machine.Run} {run : Machine.Run} {e : Error}
    (hruns : (fetchAt client root request world).2.machine.runs =
      world.machine.runs ++ (front ++ run :: back))
    (hfront : ∀ earlier ∈ front, earlier.args.head? ≠ some "branch")
    (hbranch : run.args.head? = some "branch")
    (hexit : (world.machine.replies[front.length]?.getD Machine.silence).status.isSuccess)
    (hfailed : (fetchAt client root request world).1 = .error e) :
    (∃ later ∈ back, later.args = ["reset", "--hard", "--quiet"]) ↔
      ∃ text, Utf8.decode (world.machine.replies[front.length]?.getD Machine.silence).out =
        .ok text := by
  obtain ⟨prepared, outcome, rest, rfl, hrun, rfl, hrest⟩ :=
    exists_of_first_branch_run client root request world hruns hfront hbranch
  rw [← outcome_branchStep_isOk_iff request prepared.start hexit]
  rcases hrest with ⟨houtcome, rfl⟩ | ⟨houtcome, committed, hok, hway⟩
  · rw [houtcome]
    exact iff_of_false nofun nofun
  · have hcommitted : committed.isOk = false := by
      rw [← hok, hfailed]
      rfl
    obtain ⟨exchange, he, hreset⟩ := exists_reset_of_way_commitOrTakeBack hway hcommitted
    obtain ⟨later, hlater⟩ := exists_run?_of_run? hrun resetStep.question (by decide)
    exact iff_of_true ⟨later, List.mem_filterMap.mpr ⟨exchange, he, hreset ▸ hlater⟩,
      (args_of_run? hlater).1⟩ houtcome

theorem reset_follows_of_refused :
    (fetchAt (Http.client "agent") "/work" pageRequest (pageWorld "c0" refusingReplies)).1 =
        .error (.repository (.commandFailed "checkout" "exit status: 1")) ∧
      ∃ later ∈ [gitRun ["checkout", "--quiet", "fetched"], gitRun ["reset", "--hard", "--quiet"]],
        later.args = ["reset", "--hard", "--quiet"] := by
  obtain ⟨-, houtcome, hruns⟩ := fetch_pageWorld "c0" refusingReplies (by decide +kernel)
  have hfailed : (pageAnswered "c0" refusingReplies).1 =
      .error (.repository (.commandFailed "checkout" "exit status: 1")) := by decide +kernel
  have hasked : ((pageAnswered "c0" refusingReplies).2.map fun exchange =>
        (⟨"git", ["work"], exchange.question.args, exchange.question.environment⟩ : Machine.Run)) =
      [] ++ ([gitRun ["status", "--porcelain"],
          gitRun ["symbolic-ref", "--quiet", "--short", "HEAD"]] ++
        gitRun ["branch", "fetched", "c0"] ::
          [gitRun ["checkout", "--quiet", "fetched"], gitRun ["reset", "--hard", "--quiet"]]) := by
    decide +kernel
  exact ⟨houtcome.trans hfailed, (reset_follows_iff (Http.client "agent") "/work" pageRequest
    (pageWorld "c0" refusingReplies) (hruns.trans hasked) (by decide) (by decide)
    (by decide +kernel) (houtcome.trans hfailed)).mpr ⟨[], by decide +kernel⟩⟩

/-- The branch is there, the fetch fails, and nothing is taken back. -/
theorem not_taken_back_of_garbled :
    (fetchAt (Http.client "agent") "/work" pageRequest (pageWorld "c0" garbledReplies)).1 =
        .error (.repository (.malformedOutput (.sequence 1 0))) ∧
      (fetchAt (Http.client "agent") "/work" pageRequest
        (pageWorld "c0" garbledReplies)).2.machine.runs =
        [gitRun ["status", "--porcelain"], gitRun ["symbolic-ref", "--quiet", "--short", "HEAD"],
          gitRun ["branch", "fetched", "c0"]] ∧
      garbledReplies[2]?.map Machine.Reply.status = some (.exited 0) := by
  obtain ⟨-, houtcome, hruns⟩ := fetch_pageWorld "c0" garbledReplies (by decide +kernel)
  rw [houtcome, hruns]
  decide +kernel

end Fetch

end Webrev.Git
