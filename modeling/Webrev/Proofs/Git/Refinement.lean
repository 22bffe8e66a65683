import Webrev.Program
import Webrev.Proofs.Git.Pipeline

/-!
# Runs of a fetch and plays of its pipeline

A step that is carried out on the machine of a world, and a dialogue that is played on that machine,
have the same outcome and leave the same machine. This is shown along the program: for one run, for
the questions and the changes of a repository, and for the parts of a fetch that come from them. A
download does not touch the machine, and all the pipeline needs of it is its outcome; the file of
the patch is released at the end, and that does not touch the machine either.

## Main definitions

* `Git.Speaks` : a step and a dialogue agree in every world.
* `Git.Ends` : a step and a dialogue agree in one world, apart from its network.
* `Git.fetchAt` : a fetch in a world.
* `Git.fetchPlay` : the play of its pipeline.

## Main results

* `Git.Speaks.bind`, `Git.Speaks.mk_bind` : composed steps and composed dialogues agree.
* `Git.download_zoom` : a download stays in its part of the world.
* `Git.fetchAt_eq` : a fetch and its pipeline agree.
* `Git.runs_fetchAt` : the runs of a fetch are those of its pipeline.
-/

namespace Webrev

/-- The whole of a world is a part of it. -/
def Part.whole (ω : Type) : Part ω ω where
  get := id
  set world _ := world
  get_set _ _ := rfl
  set_get _ := rfl
  set_set _ _ _ := rfl

namespace Git

open Integration

variable {ω ε ε' α β γ δ : Type}

/-- The step has the outcome that the dialogue has when it is played on the machine, apart from what
is forgotten of it, and leaves the machine that the play leaves. -/
def Speaks (root : String) (part : Part ω Machine) (forget : α → β) (step : Attempt ω ε β)
    (talk : Talk ε α) : Prop :=
  ∀ world, step.runAt world =
    ((talk.run.play root (part.get world)).outcome.map forget,
      part.set (talk.run.play root (part.get world)).machine world)

/-! ### Replies -/

/-- The program reads what a run wrote as the pipeline does. -/
theorem trimmedText_eq_said (reply : Machine.Reply) : trimmedText reply.out = said reply := by
  rw [trimmedText, textOf, said]
  cases Utf8.decode reply.out with
  | error malformed => rfl
  | ok text =>
    change Except.ok (String.ofList (Text.trim text)) = .ok (Text.trimmed (String.ofList text))
    rw [Text.trimmed, String.toList_ofList]

/-- The program tells a failure as the pipeline does. -/
theorem failed_eq_complaint (words : List Word) (reply : Machine.Reply) :
    failed (words.map Word.text) reply = complaint words reply := by
  rw [failed, complaint, List.headD_eq_head?_getD]
  refine congrArg (RepositoryError.commandFailed _) ?_
  simp only [List.map_cons, List.map_nil, Text.trimmed, String.toList_ofList]
  by_cases herr : Text.trim (Utf8.decodeLossy reply.err) = []
  · by_cases hout : Text.trim (Utf8.decodeLossy reply.out) = []
    · simp [herr, hout]
    · simp [herr, hout]
  · simp [herr]

theorem isNoReference_iff (word : Word) :
    isNoReference word.text = true ↔ word.text = "" ∨ word.IsDashed := by
  simp [isNoReference, Word.IsDashed]

theorem authorEnvironment_eq (author : String) :
    authorEnvironment author "" = if author = "" then [] else [("GIT_AUTHOR_NAME", author)] := by
  simp [authorEnvironment]

namespace Speaks

variable {root : String} {part : Part ω Machine} {forget : α → β} {step : Attempt ω ε β}
  {talk : Talk ε α}

theorem pure {a : α} {b : β} (h : forget a = b) :
    Speaks root part forget (Pure.pure b : Attempt ω ε β) (Pure.pure a) := by
  subst h
  exact fun world => Prod.ext rfl (part.set_get world).symm

theorem throw (e : ε) :
    Speaks root part forget (MonadExcept.throw e : Attempt ω ε β)
      (MonadExcept.throw e : Talk ε α) :=
  fun world => Prod.ext rfl (part.set_get world).symm

theorem ofExcept (outcome : Except ε α) :
    Speaks root part id (Attempt.ofExcept outcome) (Talk.ofExcept outcome) :=
  fun world => Prod.ext (congrFun Except.map_id outcome).symm (part.set_get world).symm

/-- A failure that is told in other words. -/
theorem mapError {f : ε → ε'} (h : Speaks root part forget step talk) :
    Speaks root part forget (step.mapError f) (talk.mapError f) := by
  intro world
  have hplay : (talk.mapError f).run.play root (part.get world) = _ := Dialogue.play_map ..
  rw [Attempt.runAt_mapError, h world, hplay]
  cases (talk.run.play root (part.get world)).outcome <;> rfl

/-- A step after another. -/
theorem bind {next : β → Attempt ω ε δ} {nextTalk : α → Talk ε γ} {forget' : γ → δ}
    (h : Speaks root part forget step talk)
    (hn : ∀ a, Speaks root part forget' (next (forget a)) (nextTalk a)) :
    Speaks root part forget' (step >>= next) (talk >>= nextTalk) := by
  intro world
  have hstep := h world
  rcases hp : talk.run.play root (part.get world) with ⟨e | a, exchanges, machine⟩
  · have hplay : (talk >>= nextTalk).run.play root (part.get world) = _ :=
      Dialogue.play_bind_of_eq hp _
    rw [hp] at hstep
    rw [Attempt.runAt_bind_of_error hstep, hplay]
    rfl
  · have hplay : (talk >>= nextTalk).run.play root (part.get world) = _ :=
      Dialogue.play_bind_of_eq hp _
    rw [hp] at hstep
    rw [Attempt.runAt_bind_of_ok hstep, hplay, hn a, part.get_set, part.set_set]
    rfl

/-- What is done with the outcome of a step, be it a failure. -/
theorem mk_bind {next : Except ε β → StateM ω (Except ε' δ)}
    {nextTalk : Except ε α → Dialogue (Except ε' γ)} {forget' : γ → δ}
    (h : Speaks root part forget step talk)
    (hn : ∀ outcome, Speaks root part forget' (ExceptT.mk (next (outcome.map forget)))
      (ExceptT.mk (nextTalk outcome))) :
    Speaks root part forget' (ExceptT.mk (step.run >>= next))
      (ExceptT.mk (talk.run >>= nextTalk)) := by
  intro world
  rcases hp : talk.run.play root (part.get world) with ⟨outcome, exchanges, machine⟩
  have hplay : (talk.run >>= nextTalk).play root (part.get world) = _ :=
    Dialogue.play_bind_of_eq hp _
  rw [Attempt.runAt_mk_bind, h world, hp]
  dsimp only
  rw [hn, part.get_set, part.set_set]
  exact Prod.ext (by rw [ExceptT.run_mk, ExceptT.run_mk, hplay])
    (by rw [ExceptT.run_mk, ExceptT.run_mk, hplay])

/-- A step on the machine of a world. -/
theorem zoom {step : Attempt Machine ε β} (h : Speaks root (.whole Machine) forget step talk) :
    Speaks root part forget (step.zoom part.get part.set) talk := by
  intro world
  rw [Attempt.runAt_zoom, h]
  rfl

/-- A run. -/
theorem run {args : List String} {environment : List (String × String)} {question : Question}
    (hargs : question.args = args) (henvironment : question.environment = environment) :
    Speaks root (.whole Machine) id (Git.run (some root) args environment) (ask question) := by
  subst hargs henvironment
  intro machine
  refine Prod.ext ?_ rfl
  change (machine.run (question.command root)).1.mapError _ =
    ((machine.run (question.command root)).1.mapError _).map id
  cases (machine.run (question.command root)).1 <;> rfl

/-- A run that did not end well. -/
theorem complain (words : List Word) (reply : Machine.Reply) :
    Speaks root part forget
      (MonadExcept.throw (failed (words.map Word.text) reply) : Attempt ω RepositoryError β)
      (MonadExcept.throw (complaint words reply) : Talk RepositoryError α) := by
  rw [failed_eq_complaint]
  exact throw _

/-- A run that has to end well and to write a text. -/
theorem checked {args : List String} {words : List Word} (h : words.map Word.text = args) :
    Speaks root (.whole Machine) id (Git.checked root args) (Step.printed words).take := by
  subst h
  refine bind (run rfl rfl) fun reply => ?_
  by_cases hs : reply.status.isSuccess
  · simp only [id, Step.printed, hs, ↓reduceIte, trimmedText_eq_said]
    exact ofExcept _
  · simp only [id, Step.printed, hs, Bool.false_eq_true, ↓reduceIte]
    exact complain words reply

/-- What is made of the outcome of a step. -/
theorem then_pure {f : β → δ} {forget' : α → δ} (h : Speaks root part forget step talk)
    (hf : ∀ a, forget' a = f (forget a)) :
    Speaks root part forget' (step >>= fun b => Pure.pure (f b)) talk := by
  rw [← bind_pure talk]
  exact bind h fun a => pure (hf a)

/-! ### Questions -/

/-- The commit that a revision denotes. -/
theorem resolve (word : Word) :
    Speaks root (.whole Machine) (Option.map Word.commit) (Git.resolve root word.text)
      (revision word) := by
  unfold Git.resolve revision
  by_cases hr : word.text = "" ∨ word.IsDashed
  · rw [if_pos hr, if_pos ((isNoReference_iff word).mpr hr)]
    exact pure rfl
  · rw [if_neg hr, if_neg (mt (isNoReference_iff word).mp hr)]
    refine bind (run rfl rfl) fun reply => ?_
    by_cases hs : reply.status.isSuccess
    · simp only [id, hs, ↓reduceIte, trimmedText_eq_said]
      exact bind (ofExcept _) fun text => pure rfl
    · simp only [id, hs, Bool.false_eq_true, ↓reduceIte]
      exact pure rfl

/-- The branch that is checked out. -/
theorem currentBranch :
    Speaks root (.whole Machine) (Option.map Word.branch) (Git.currentBranch root) checkedOut := by
  unfold Git.currentBranch checkedOut
  refine bind (run rfl rfl) fun reply => ?_
  by_cases hs : reply.status.isSuccess
  · simp only [id, hs, ↓reduceIte, trimmedText_eq_said, String.isEmpty_iff]
    refine bind (ofExcept _) fun text => ?_
    by_cases ht : text = ""
    · simp only [id, ht, ↓reduceIte]
      exact pure rfl
    · simp only [id, ht, ↓reduceIte]
      exact pure rfl
  · simp only [id, hs, Bool.false_eq_true, ↓reduceIte]
    exact pure rfl

/-- The branches that a text lists. -/
def branchesIn (text : String) : List Branch :=
  ((Text.lines text.toList).filter (· ≠ [])).map fun line => ⟨String.ofList line⟩

theorem any_branchesIn (text name : String) :
    ((branchesIn text).any fun branch => branch.name == name) = lists text name := by
  rw [branchesIn, List.any_map]
  rfl

theorem branches :
    Speaks root (.whole Machine) branchesIn (Git.branches root)
      (Step.printed ["for-each-ref", "--format=%(refname:short)", "refs/heads/"]).take := by
  unfold Git.branches
  exact then_pure (checked rfl) fun _ => rfl

theorem isClean :
    Speaks root (.whole Machine) String.isEmpty (Git.query root .isClean)
      (Step.printed ["status", "--porcelain"]).take := by
  unfold Git.query
  exact then_pure (checked rfl) fun _ => rfl

/-! ### Changes -/

theorem commit (message author : String) :
    Speaks root (.whole Machine) CommitHash.mk (Git.commit root message author "")
      (inOrder [.silent ⟨["commit", "--quiet", "--message", ⟨message, .request⟩],
        if author = "" then [] else [("GIT_AUTHOR_NAME", author)]⟩,
        .printed ["rev-parse", "HEAD"]]) := by
  unfold Git.commit inOrder Step.take
  rw [bind_assoc]
  refine bind (run rfl (authorEnvironment_eq author).symm) fun reply => ?_
  by_cases hs : reply.status.isSuccess
  · simp only [id, Step.silent, hs, ↓reduceIte]
    exact then_pure (checked rfl) fun _ => rfl
  · simp only [id, Step.silent, hs, Bool.false_eq_true, ↓reduceIte]
    exact complain ["commit", "--quiet", "--message", ⟨message, .request⟩] reply

end Speaks

/-! ### A fetch in a world -/

/-- The machine of a world. -/
def machinePart : Part Program.World Machine where
  get := Program.World.machine
  set := Program.World.setMachine
  get_set _ _ := rfl
  set_get _ := rfl
  set_set _ _ _ := rfl

/-- The network of a world. -/
def sessionPart : Part Program.World Http.Session where
  get := Program.World.session
  set := Program.World.setSession
  get_set _ _ := rfl
  set_get _ := rfl
  set_set _ _ _ := rfl

namespace Speaks

variable {root : String}

theorem query {question : Query} {forget : α → question.Answer} {talk : Talk RepositoryError α}
    (h : Speaks root (.whole Machine) forget (Git.query root question) talk) :
    Speaks root machinePart forget ((Program.repositoryAt root).query question) talk :=
  h.zoom

theorem commitOf (word : Word) :
    Speaks root machinePart Word.commit
      ((Program.repositoryAt root).toQueries.commitOf word.text) (Git.commitOf word) := by
  unfold Queries.commitOf Git.commitOf
  refine bind (mapError (query (resolve word))) fun found => ?_
  cases found with
  | none => exact throw _
  | some commit => exact pure rfl

theorem commitOfBranch (word : Word) :
    Speaks root machinePart Word.commit
      ((Program.repositoryAt root).toQueries.commitOfBranch word.text)
      (Git.commitOfBranch word) := by
  unfold Queries.commitOfBranch Git.commitOfBranch
  refine bind (mapError (query branches)) fun known => ?_
  rw [any_branchesIn]
  split
  · exact commitOf word
  · exact throw _

/-- The target that a word names. -/
def targetOf (found : Word × Target.Origin) : Target := ⟨found.1.commit, found.2⟩

theorem target (metadata : Metadata) (reference : Option String) :
    Speaks root machinePart targetOf
      (Target.resolve (Program.repositoryAt root).toQueries metadata reference)
      (Git.target metadata reference) := by
  unfold Target.resolve Git.target
  rcases reference with _ | reference
  · rcases metadata.compareAgainstRevision with _ | revision
    · rcases metadata.branch with _ | name
      · exact throw _
      · exact bind (commitOfBranch ⟨name, .page⟩) fun commit => pure rfl
    · exact pure rfl
  · exact bind (commitOf ⟨reference, .reference⟩) fun commit => pure rfl

theorem place :
    Speaks root machinePart Place.previous (recordPrevious (Program.repositoryAt root).toQueries)
      Git.place := by
  unfold recordPrevious Git.place
  refine bind (mapError (query currentBranch)) fun name => ?_
  cases name with
  | some name => exact pure rfl
  | none =>
    refine bind (mapError (query (resolve "HEAD"))) fun commit => ?_
    cases commit with
    | some commit => exact pure rfl
    | none => exact throw _

/-- A change that is one run. -/
theorem mutate {order : Mutation} {args : List String} {answer : order.Answer} {words : List Word}
    (h : Git.mutate root order = Git.checked root args >>= fun _ => Pure.pure answer)
    (hargs : words.map Word.text = args) :
    Speaks root machinePart (fun _ => answer) ((Program.repositoryAt root).mutate order)
      (Step.printed words).take := by
  have hrun : Speaks root (.whole Machine) (fun _ => answer) (Git.mutate root order)
      (Step.printed words).take := by
    rw [h]
    exact then_pure (checked hargs) fun _ => rfl
  exact hrun.zoom

theorem commitPatch (request : Request) (patch : PatchFile) (author : String) :
    Speaks root machinePart CommitHash.mk
      (Integration.commitPatch (Program.repositoryAt root) ⟨request.branch⟩ patch request.location
        author)
      (inOrder (commitSteps request patch author)) := by
  refine bind (mutate rfl rfl) fun _ => ?_
  refine bind (mutate rfl rfl) fun _ => ?_
  exact zoom (commit request.location author)

theorem restore (place : Place) :
    Speaks root machinePart (fun _ => ()) (place.previous.restore (Program.repositoryAt root))
      place.restoreStep.take := by
  cases place with
  | branch name => exact mutate rfl rfl
  | detached commit => exact mutate rfl rfl

theorem takeBack (request : Request) (place : Place) :
    Speaks root machinePart (fun _ => ())
      (Integration.takeBack (Program.repositoryAt root) place.previous ⟨request.branch⟩)
      (inOrder (takeBackSteps request place)) := by
  refine bind (mutate rfl rfl) fun _ => ?_
  exact bind (restore place) fun _ => mutate rfl rfl

theorem commitOrTakeBack (request : Request) (prepared : Prepared) :
    Speaks root machinePart id
      (commitOrRollBack (Program.repositoryAt root) prepared.place.previous ⟨request.branch⟩
        prepared.patch request.location (prepared.metadata.author.getD ""))
      (Git.commitOrTakeBack request prepared) := by
  refine mk_bind (commitPatch request prepared.patch _) fun outcome => ?_
  cases outcome with
  | ok commit => exact pure rfl
  | error e =>
    -- What comes of the taking back does not matter.
    let outcome : Except Integration.Error CommitHash := .error (.repository e)
    have hback : Speaks root machinePart id
        (ExceptT.mk ((Integration.takeBack (Program.repositoryAt root) prepared.place.previous
          ⟨request.branch⟩).run >>= fun _ => Pure.pure outcome))
        (ExceptT.mk ((inOrder (takeBackSteps request prepared.place)).run >>=
          fun _ => Pure.pure outcome)) :=
      mk_bind (takeBack request prepared.place) fun _ => ofExcept outcome
    exact hback

theorem fetchPatch (request : Request) (metadata : Metadata) (patch : PatchFile) :
    Speaks root machinePart id
      (Integration.fetchPatch (Program.repositoryAt root) request metadata patch)
      (do
        let chosen ← (Git.target metadata request.reference).mapError .resolve
        bring request ⟨metadata, patch, chosen.1, chosen.2, ← Git.place⟩) := by
  refine bind (mapError (target metadata request.reference)) fun found => ?_
  refine bind place fun place => ?_
  refine bind (mapError (mutate rfl rfl)) fun _ => ?_
  exact bind (commitOrTakeBack request ⟨metadata, patch, found.1, found.2, place⟩) fun _ => pure rfl

end Speaks

/-! ### Downloads on the way -/

/-- The metadata and the patch of the webrev at a location. -/
def download {σ : Type} (client : Client σ) (location : String) :
    Attempt σ Integration.Error (Metadata × PatchFile) := do
  let metadata ← metadataAt client location
  match metadata.patchUri with
  | some uri => return (metadata, ← (client.fetchPatch uri).mapError .access)
  | none => throw (.patchNotFound metadata.sourceUri)

/-- The patch of a webrev is released after whatever is done with it. -/
theorem withWebrev_eq (client : Client ω) (location : String)
    (step : Metadata → PatchFile → Attempt ω Integration.Error α) :
    (withWebrev client location fun metadata _ patch => step metadata patch) =
      download client location >>= fun found => ExceptT.mk do
        let outcome ← (step found.1 found.2).run
        client.release found.2
        return outcome := by
  unfold withWebrev download
  rw [bind_assoc]
  refine congrArg _ (funext fun metadata => ?_)
  cases metadata.patchUri with
  | none => rfl
  | some uri =>
    rw [bind_assoc]
    rfl

theorem fetchMetadata_zoom {σ : Type} (part : Part ω σ) (client : Client σ) (location : String) :
    (client.zoom part.get part.set).fetchMetadata location =
      (client.fetchMetadata location).zoom part.get part.set := by
  unfold Client.fetchMetadata
  simp only [Attempt.zoom_bind, Attempt.zoom_ofExcept]
  rfl

/-- A download with a client of a part of a world stays in that part. -/
theorem download_zoom {σ : Type} (part : Part ω σ) (client : Client σ) (location : String) :
    download (client.zoom part.get part.set) location =
      (download client location).zoom part.get part.set := by
  unfold download metadataAt
  rw [Attempt.zoom_bind, fetchMetadata_zoom]
  refine congrArg _ (funext fun metadata => ?_)
  cases metadata.patchUri with
  | none => exact (Attempt.zoom_throw part _).symm
  | some uri =>
    rw [Attempt.zoom_bind]
    simp only [Attempt.zoom_pure]
    rfl

/-- The step has the outcome that the dialogue has when it is played on the machine of the world,
and leaves the machine that the play leaves. What it leaves of the network is not said. -/
def Ends (root : String) (world : Program.World) (step : Attempt Program.World ε α)
    (talk : Talk ε α) : Prop :=
  ∃ session, step.runAt world =
    ((talk.run.play root world.machine).outcome,
      ⟨(talk.run.play root world.machine).machine, session⟩)

namespace Ends

variable {root : String} {world : Program.World}

theorem of_speaks {step : Attempt Program.World ε α} {talk : Talk ε α}
    (h : Speaks root machinePart id step talk) : Ends root world step talk :=
  ⟨world.session, (h world).trans (Prod.ext (congrFun Except.map_id _) rfl)⟩

/-- What is done after a step on the machine. -/
theorem bind {forget : α → β} {step : Attempt Program.World ε β} {talk : Talk ε α}
    {next : β → Attempt Program.World ε γ} {nextTalk : α → Talk ε γ}
    (h : Speaks root machinePart forget step talk)
    (hn : ∀ a machine, Ends root (world.setMachine machine) (next (forget a)) (nextTalk a)) :
    Ends root world (step >>= next) (talk >>= nextTalk) := by
  have hstep := h world
  rcases hp : talk.run.play root world.machine with ⟨e | a, exchanges, machine⟩
  · have hplay : (talk >>= nextTalk).run.play root world.machine = _ :=
      Dialogue.play_bind_of_eq hp _
    rw [machinePart, hp] at hstep
    refine ⟨world.session, ?_⟩
    rw [Attempt.runAt_bind_of_error hstep, hplay]
    rfl
  · have hplay : (talk >>= nextTalk).run.play root world.machine = _ :=
      Dialogue.play_bind_of_eq hp _
    rw [machinePart, hp] at hstep
    obtain ⟨session, hnext⟩ := hn a machine
    refine ⟨session, ?_⟩
    rw [Attempt.runAt_bind_of_ok hstep, hplay]
    exact hnext

/-- What is done after a step on the network. -/
theorem outside {step : Attempt Http.Session ε α} {next : α → Attempt Program.World ε β}
    {nextTalk : α → Talk ε β}
    (hn : ∀ a session, Ends root (world.setSession session) (next a) (nextTalk a)) :
    Ends root world (step.zoom sessionPart.get sessionPart.set >>= next)
      (Talk.ofExcept (step.runAt world.session).1 >>= nextTalk) := by
  have hstep : (step.zoom sessionPart.get sessionPart.set).runAt world =
      ((step.runAt world.session).1, world.setSession (step.runAt world.session).2) := rfl
  rcases hs : step.runAt world.session with ⟨e | a, session⟩ <;> rw [hs] at hstep
  · exact ⟨session, Attempt.runAt_bind_of_error hstep⟩
  · obtain ⟨last, hnext⟩ := hn a session
    exact ⟨last, (Attempt.runAt_bind_of_ok hstep).trans hnext⟩

/-- A file is released after a step on the machine. -/
theorem released {step : Attempt Program.World ε α} {talk : Talk ε α}
    (h : Speaks root machinePart id step talk) (client : Client Http.Session) (file : PatchFile) :
    Ends root world
      (ExceptT.mk do
        let outcome ← step.run
        (client.zoom sessionPart.get sessionPart.set).release file
        return outcome) talk := by
  refine ⟨(client.release file world.session).2, ?_⟩
  rw [Attempt.runAt_mk_bind, h world]
  exact Prod.ext (congrFun Except.map_id _) rfl

end Ends

theorem pipeline_eq (request : Request)
    (found : Except Integration.Error (Metadata × PatchFile)) :
    pipeline request found = (do
      let changes ← (Step.printed ["status", "--porcelain"]).take.mapError .repository
      if !changes.isEmpty then throw .dirtyWorkingCopy
      let webrev ← Talk.ofExcept found
      let chosen ← (target webrev.1 request.reference).mapError .resolve
      bring request ⟨webrev.1, webrev.2, chosen.1, chosen.2, ← place⟩) := by
  unfold pipeline prepare
  rw [bind_assoc]
  refine congrArg _ (funext fun changes => ?_)
  cases changes.isEmpty with
  | false => rfl
  | true =>
    simp only [Bool.not_true, Bool.false_eq_true, ↓reduceIte, bind_assoc, pure_bind]

/-! ### The whole fetch -/

section Fetch

variable (client : Client Http.Session) (root : String) (request : Request)
  (world : Program.World)

/-- The outcome of a fetch with a client of the network, in the working copy at `root`, and the
world that it leaves. -/
def fetchAt : Except Integration.Error Fetched × Program.World :=
  (fetch (client.zoom Program.World.session Program.World.setSession) (Program.repositoryAt root)
    request).runAt world

/-- What the client downloads. -/
def downloaded : Except Integration.Error (Metadata × PatchFile) :=
  ((download client request.location).runAt world.session).1

/-- The pipeline of a fetch, played on the machine of the world. -/
def fetchPlay : Dialogue.Played (Except Integration.Error Fetched) :=
  (pipeline request (downloaded client request world)).run.play root world.machine

theorem ends_fetch :
    Ends root world
      (fetch (client.zoom sessionPart.get sessionPart.set) (Program.repositoryAt root) request)
      (pipeline request (downloaded client request world)) := by
  rw [pipeline_eq]
  refine Ends.bind (Speaks.mapError (Speaks.query Speaks.isClean)) fun changes machine => ?_
  cases hc : changes.isEmpty with
  | false => exact Ends.of_speaks (Speaks.throw _)
  | true =>
    rw [withWebrev_eq, download_zoom]
    exact Ends.outside fun found session =>
      Ends.released (Speaks.fetchPatch request found.1 found.2) client found.2

theorem fetchAt_eq : ∃ session, fetchAt client root request world =
    ((fetchPlay client root request world).outcome,
      ⟨(fetchPlay client root request world).machine, session⟩) :=
  ends_fetch client root request world

theorem way_fetchPlay :
    (pipeline request (downloaded client request world)).run.Way
      (fetchPlay client root request world).exchanges
      (fetchPlay client root request world).outcome :=
  Dialogue.way_play ..

theorem course_fetchPlay :
    Course root world.machine (fetchPlay client root request world).exchanges
      (fetchPlay client root request world).machine :=
  Dialogue.course_play ..

/-- A fetch ends as its pipeline does. -/
theorem outcome_fetchAt :
    (fetchAt client root request world).1 = (fetchPlay client root request world).outcome := by
  obtain ⟨session, h⟩ := fetchAt_eq client root request world
  rw [h]

theorem machine_fetchAt :
    (fetchAt client root request world).2.machine =
      (fetchPlay client root request world).machine := by
  obtain ⟨session, h⟩ := fetchAt_eq client root request world
  rw [h]

/-- The runs of a fetch are those of its pipeline. -/
theorem runs_fetchAt :
    (fetchAt client root request world).2.machine.runs =
      world.machine.runs ++
        runsOf root world.machine (fetchPlay client root request world).exchanges := by
  rw [machine_fetchAt]
  exact (course_fetchPlay client root request world).runs_eq

end Fetch

end Git

end Webrev
