import Webrev.Proofs.Git.Pipeline

/-!
# Ways through the pipeline

The ways through a dialogue that may end in a failure come from those of its parts, and so do the
ways through the pipeline of a fetch: which questions are asked, in which order, and with which
outcome. What holds of every question is shown along the parts of the pipeline, together with what
each part gives to the next.

## Main definitions

* `Git.Step.outcome` : what is made of what comes of a step.
* `Git.Talk.Keeps` : what holds of every question, and of what a dialogue gives.

## Main results

* `Git.way_bind_iff`, `Git.way_take_iff` : the ways through composed dialogues and through a step.
* `Git.questions_of_way_inOrder` : steps are taken up to the first that fails.
* `Git.way_commitOrTakeBack_iff` : a fetch is taken back exactly when committing fails.
* `Git.exists_of_way_bring` : what is asked from the branch on.
* `Git.Talk.Keeps.bind` : what holds of every question of composed dialogues.
-/

namespace Webrev.Git

open Integration

variable {ε ε' α : Type}

/-! ### Which ways there are -/

section Ways

variable {β : Type} {exchanges : List Exchange}

theorem way_ofExcept_iff {outcome last : Except ε α} :
    (Talk.ofExcept outcome).run.Way exchanges last ↔ exchanges = [] ∧ last = outcome :=
  Dialogue.way_pure_iff

theorem way_pure_iff {a : α} {last : Except ε α} :
    (pure a : Talk ε α).run.Way exchanges last ↔ exchanges = [] ∧ last = .ok a :=
  Dialogue.way_pure_iff

theorem way_throw_iff {e : ε} {last : Except ε α} :
    (throw e : Talk ε α).run.Way exchanges last ↔ exchanges = [] ∧ last = .error e :=
  Dialogue.way_pure_iff

theorem way_mapError_iff {f : ε → ε'} {talk : Talk ε α} {last : Except ε' α} :
    (talk.mapError f).run.Way exchanges last ↔
      ∃ inner, last = inner.mapError f ∧ talk.run.Way exchanges inner :=
  Dialogue.way_map_iff

/-- A dialogue after another: the first one fails, or the second one follows. -/
theorem way_bind_iff {talk : Talk ε α} {next : α → Talk ε β} {last : Except ε β} :
    (talk >>= next).run.Way exchanges last ↔
      (∃ e, last = .error e ∧ talk.run.Way exchanges (.error e)) ∨
        ∃ a front rest, exchanges = front ++ rest ∧ talk.run.Way front (.ok a) ∧
          (next a).run.Way rest last := by
  constructor
  · intro h
    obtain ⟨outcome, front, rest, rfl, hfront, hrest⟩ := Dialogue.way_bind_iff.mp h
    cases outcome with
    | error e =>
      obtain ⟨rfl, rfl⟩ := Dialogue.way_pure_iff.mp hrest
      exact .inl ⟨e, rfl, (List.append_nil front).symm ▸ hfront⟩
    | ok a => exact .inr ⟨a, front, rest, rfl, hfront, hrest⟩
  · rintro (⟨e, rfl, h⟩ | ⟨a, front, rest, rfl, hfront, hrest⟩)
    · exact Dialogue.way_bind_iff.mpr ⟨.error e, exchanges, [], (List.append_nil exchanges).symm, h,
        Dialogue.way_pure_iff.mpr ⟨rfl, rfl⟩⟩
    · exact Dialogue.way_bind_iff.mpr ⟨.ok a, front, rest, rfl, hfront, hrest⟩

theorem way_ask_iff {question : Question} {last : Except RepositoryError Machine.Reply} :
    (ask question).run.Way exchanges last ↔
      ∃ answer, exchanges = [⟨question, answer⟩] ∧ last = answer.mapError .notRun :=
  Dialogue.way_ask_done_iff

/-- What is made of what comes of the question of a step. -/
def Step.outcome (step : Step) (answer : Answer) : Except RepositoryError String :=
  (answer.mapError .notRun).bind step.read

theorem way_take_iff {step : Step} {last : Except RepositoryError String} :
    step.take.run.Way exchanges last ↔
      ∃ answer, exchanges = [⟨step.question, answer⟩] ∧ last = step.outcome answer := by
  rw [Step.take, way_bind_iff]
  simp only [way_ask_iff, way_ofExcept_iff]
  constructor
  · rintro (⟨e, rfl, answer, rfl, he⟩ | ⟨reply, front, rest, rfl, ⟨answer, rfl, hr⟩, rfl, rfl⟩)
    · exact ⟨answer, rfl, by rw [Step.outcome, ← he]; rfl⟩
    · exact ⟨answer, rfl, by rw [Step.outcome, ← hr]; rfl⟩
  · rintro ⟨answer, rfl, rfl⟩
    cases answer with
    | error fault => exact .inl ⟨.notRun fault, rfl, .error fault, rfl, rfl⟩
    | ok reply => exact .inr ⟨reply, _, [], rfl, ⟨.ok reply, rfl, rfl⟩, rfl, rfl⟩

theorem way_take_mapError_iff {f : RepositoryError → ε} {step : Step} {last : Except ε String} :
    (step.take.mapError f).run.Way exchanges last ↔
      ∃ answer, exchanges = [⟨step.question, answer⟩] ∧
        last = (step.outcome answer).mapError f := by
  rw [way_mapError_iff]
  simp only [way_take_iff]
  constructor
  · rintro ⟨inner, rfl, answer, rfl, rfl⟩
    exact ⟨answer, rfl, rfl⟩
  · rintro ⟨answer, rfl, rfl⟩
    exact ⟨_, rfl, answer, rfl, rfl⟩

/-- Steps in order begin with the question of the first one. -/
theorem exists_of_way_inOrder {step : Step} {steps : List Step}
    {last : Except RepositoryError String}
    (h : (inOrder (step :: steps)).run.Way exchanges last) :
    ∃ answer rest, exchanges = ⟨step.question, answer⟩ :: rest := by
  cases steps with
  | nil =>
    obtain ⟨answer, rfl, -⟩ := way_take_iff.mp h
    exact ⟨answer, [], rfl⟩
  | cons next steps =>
    rcases way_bind_iff.mp h with ⟨e, rfl, hfront⟩ | ⟨a, front, rest, rfl, hfront, -⟩
    · obtain ⟨answer, rfl, -⟩ := way_take_iff.mp hfront
      exact ⟨answer, [], rfl⟩
    · obtain ⟨answer, rfl, -⟩ := way_take_iff.mp hfront
      exact ⟨answer, rest, rfl⟩

/-- Steps in order are taken up to the first that fails, and all of them if none does. -/
theorem questions_of_way_inOrder {steps : List Step} {last : Except RepositoryError String}
    (h : (inOrder steps).run.Way exchanges last) :
    exchanges.map Exchange.question <+: steps.map Step.question ∧
      (last.isOk → exchanges.map Exchange.question = steps.map Step.question) := by
  induction steps generalizing exchanges with
  | nil =>
    obtain ⟨rfl, -⟩ := way_pure_iff.mp h
    exact ⟨List.prefix_rfl, fun _ => rfl⟩
  | cons step steps ih =>
    cases steps with
    | nil =>
      obtain ⟨answer, rfl, -⟩ := way_take_iff.mp h
      exact ⟨List.prefix_rfl, fun _ => rfl⟩
    | cons next steps =>
      rcases way_bind_iff.mp h with ⟨e, rfl, hfront⟩ | ⟨a, front, rest, rfl, hfront, hrest⟩
      · obtain ⟨answer, rfl, -⟩ := way_take_iff.mp hfront
        exact ⟨(List.prefix_cons_inj _).mpr List.nil_prefix, nofun⟩
      · obtain ⟨answer, rfl, -⟩ := way_take_iff.mp hfront
        obtain ⟨hbegins, hwhole⟩ := ih hrest
        exact ⟨(List.prefix_cons_inj _).mpr hbegins, fun hok => congrArg (_ :: ·) (hwhole hok)⟩

/-- Committing ends well, or the fetch is taken back: then, and only then, the steps of that
follow. -/
theorem way_commitOrTakeBack_iff {request : Request} {prepared : Prepared}
    {last : Except Error CommitHash} :
    (commitOrTakeBack request prepared).run.Way exchanges last ↔
      (∃ commit, last = .ok ⟨commit⟩ ∧
        (inOrder (commitSteps request prepared.patch (prepared.metadata.author.getD ""))).run.Way
          exchanges (.ok commit)) ∨
        ∃ e front rest undone, last = .error (.repository e) ∧ exchanges = front ++ rest ∧
          (inOrder (commitSteps request prepared.patch (prepared.metadata.author.getD ""))).run.Way
            front (.error e) ∧
          (inOrder (takeBackSteps request prepared.place)).run.Way rest undone := by
  constructor
  · intro h
    obtain ⟨outcome, front, rest, rfl, hfront, hrest⟩ := Dialogue.way_bind_iff.mp h
    cases outcome with
    | ok commit =>
      obtain ⟨rfl, rfl⟩ := Dialogue.way_pure_iff.mp hrest
      exact .inl ⟨commit, rfl, (List.append_nil front).symm ▸ hfront⟩
    | error e =>
      obtain ⟨undone, back, more, rfl, hback, hmore⟩ := Dialogue.way_bind_iff.mp hrest
      obtain ⟨rfl, rfl⟩ := Dialogue.way_pure_iff.mp hmore
      exact .inr ⟨e, front, back, undone, rfl, by rw [List.append_nil], hfront, hback⟩
  · rintro (⟨commit, rfl, h⟩ | ⟨e, front, rest, undone, rfl, rfl, hfront, hrest⟩)
    · exact Dialogue.way_bind_iff.mpr ⟨.ok commit, exchanges, [], (List.append_nil exchanges).symm,
        h, Dialogue.way_pure_iff.mpr ⟨rfl, rfl⟩⟩
    · exact Dialogue.way_bind_iff.mpr ⟨.error e, front, rest, rfl, hfront,
        Dialogue.way_bind_iff.mpr ⟨undone, rest, [], (List.append_nil rest).symm, hrest,
          Dialogue.way_pure_iff.mpr ⟨rfl, rfl⟩⟩⟩

/-- From the branch on: the branch is not made, or it is made and what is committed on it follows,
and there is a failure exactly when that fails. -/
theorem exists_of_way_bring {request : Request} {prepared : Prepared} {last : Except Error Fetched}
    (h : (bring request prepared).run.Way exchanges last) :
    ∃ answer rest, exchanges = ⟨(branchStep request prepared.start).question, answer⟩ :: rest ∧
      ((∃ e, (branchStep request prepared.start).outcome answer = .error e ∧
          last = .error (.repository e) ∧ rest = []) ∨
        ∃ text committed, (branchStep request prepared.start).outcome answer = .ok text ∧
          last.isOk = committed.isOk ∧
          (commitOrTakeBack request prepared).run.Way rest committed) := by
  rcases way_bind_iff.mp h with ⟨e, rfl, hbranch⟩ | ⟨text, front, rest, rfl, hbranch, hrest⟩
  · obtain ⟨answer, rfl, hanswer⟩ := way_take_mapError_iff.mp hbranch
    refine ⟨answer, [], rfl, .inl ?_⟩
    cases ho : (branchStep request prepared.start).outcome answer with
    | error e' =>
      rw [ho] at hanswer
      cases hanswer
      exact ⟨e', rfl, rfl, rfl⟩
    | ok text =>
      rw [ho] at hanswer
      cases hanswer
  · obtain ⟨answer, rfl, hanswer⟩ := way_take_mapError_iff.mp hbranch
    refine ⟨answer, rest, rfl, .inr ?_⟩
    cases ho : (branchStep request prepared.start).outcome answer with
    | error e' =>
      rw [ho] at hanswer
      cases hanswer
    | ok text' =>
      rcases way_bind_iff.mp hrest with ⟨e, rfl, hc⟩ | ⟨commit, front, rest, rfl, hc, hpure⟩
      · exact ⟨text', .error e, rfl, rfl, hc⟩
      · obtain ⟨rfl, rfl⟩ := way_pure_iff.mp hpure
        exact ⟨text', .ok commit, rfl, rfl, by rwa [List.append_nil]⟩

end Ways

/-! ### What holds of every question -/

/-- On every way through the dialogue each question is as `P` says, and so is what it gives as `Q`
says, if it does not fail. -/
def Talk.Keeps (P : Question → Prop) (Q : α → Prop) (talk : Talk ε α) : Prop :=
  ∀ exchanges outcome, talk.run.Way exchanges outcome →
    (∀ exchange ∈ exchanges, P exchange.question) ∧ ∀ a, outcome = .ok a → Q a

namespace Talk.Keeps

variable {β : Type} {P : Question → Prop} {Q : α → Prop} {R : β → Prop} {talk : Talk ε α}

theorem imp {P' : Question → Prop} (h : talk.Keeps P Q)
    (hP : ∀ question, P question → P' question) : talk.Keeps P' Q :=
  fun exchanges outcome hw =>
    ⟨fun exchange he => hP _ ((h exchanges outcome hw).1 exchange he), (h exchanges outcome hw).2⟩

theorem pure {a : α} (h : Q a) : (Pure.pure a : Talk ε α).Keeps P Q := by
  intro exchanges outcome hw
  obtain ⟨rfl, rfl⟩ := way_pure_iff.mp hw
  exact ⟨nofun, fun b hb => Except.ok.inj hb ▸ h⟩

theorem throw (e : ε) : (MonadExcept.throw e : Talk ε α).Keeps P Q := by
  intro exchanges outcome hw
  obtain ⟨rfl, rfl⟩ := way_throw_iff.mp hw
  exact ⟨nofun, nofun⟩

theorem ofExcept {outcome : Except ε α} (h : ∀ a, outcome = .ok a → Q a) :
    (Talk.ofExcept outcome).Keeps P Q := by
  intro exchanges last hw
  obtain ⟨rfl, rfl⟩ := way_ofExcept_iff.mp hw
  exact ⟨nofun, h⟩

theorem ask {question : Question} (h : P question) :
    (Git.ask question).Keeps P fun _ => True := by
  intro exchanges outcome hw
  obtain ⟨answer, rfl, -⟩ := way_ask_iff.mp hw
  exact ⟨List.forall_mem_singleton.mpr h, fun _ _ => trivial⟩

theorem mapError {f : ε → ε'} (h : talk.Keeps P Q) : (talk.mapError f).Keeps P Q := by
  intro exchanges outcome hw
  obtain ⟨inner, rfl, hinner⟩ := way_mapError_iff.mp hw
  refine ⟨(h exchanges inner hinner).1, fun a ha => (h exchanges inner hinner).2 a ?_⟩
  cases inner with
  | error e => cases ha
  | ok b => cases ha; rfl

/-- A dialogue after another. -/
theorem bind {next : α → Talk ε β} (h : talk.Keeps P Q) (hn : ∀ a, Q a → (next a).Keeps P R) :
    (talk >>= next).Keeps P R := by
  intro exchanges outcome hw
  rcases way_bind_iff.mp hw with ⟨e, rfl, hfailed⟩ | ⟨a, front, rest, rfl, hfront, hrest⟩
  · exact ⟨(h exchanges _ hfailed).1, nofun⟩
  · obtain ⟨hf, ha⟩ := h front _ hfront
    obtain ⟨hr, hb⟩ := hn a (ha a rfl) rest outcome hrest
    exact ⟨List.forall_mem_append.mpr ⟨hf, hr⟩, hb⟩

theorem take {step : Step} (h : P step.question) : step.take.Keeps P fun _ => True :=
  (ask h).bind fun _ _ => ofExcept fun _ _ => trivial

/-- Steps in order ask their questions and no others. -/
theorem inOrder {steps : List Step} (h : ∀ step ∈ steps, P step.question) :
    (Git.inOrder steps).Keeps P fun _ => True := by
  induction steps with
  | nil => exact pure trivial
  | cons step steps ih =>
    obtain ⟨hstep, hsteps⟩ := List.forall_mem_cons.mp h
    cases steps with
    | nil => exact take hstep
    | cons next steps => exact (take hstep).bind fun _ _ => ih hsteps

/-- What is asked when a patch is committed, or the fetch taken back. -/
theorem commitOrTakeBack {request : Request} {prepared : Prepared}
    (hc : ∀ step ∈ commitSteps request prepared.patch (prepared.metadata.author.getD ""),
      P step.question)
    (ht : ∀ step ∈ takeBackSteps request prepared.place, P step.question) :
    (Git.commitOrTakeBack request prepared).Keeps P fun _ => True := by
  intro exchanges outcome hw
  refine ⟨?_, fun _ _ => trivial⟩
  rcases way_commitOrTakeBack_iff.mp hw with
    ⟨commit, -, hway⟩ | ⟨e, front, rest, undone, -, rfl, hfront, hrest⟩
  · exact (inOrder hc _ _ hway).1
  · exact List.forall_mem_append.mpr ⟨(inOrder hc _ _ hfront).1, (inOrder ht _ _ hrest).1⟩

end Talk.Keeps

end Webrev.Git
