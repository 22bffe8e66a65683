import Webrev.Proofs.Integration.Account

/-!
# The courses of applying and fetching

Every run of `Integration.apply` and of `Integration.fetch`, with its outcome and all of its calls.
A fetch first finds out what it needs, and tells the repository nothing while it does. Only then the
branch is made, and from there on a failure is answered by taking the fetch back.

## Main definitions

* `Integration.Findings` : what a fetch finds out before it changes anything.
* `Integration.Preparation` : finding it out.
* `Integration.Fetching`, `Integration.Applying` : the courses of a fetch and of an application.
* `Integration.fetchEvents`, `Integration.applyEvents` : the calls that a run makes.

## Main results

* `Integration.Preparation.quiet` : a fetch finds out what it needs without an order.
* `Integration.fetch_course` : the calls of a fetch lead to the world that it leaves, and are one of
  the courses with its outcome.
* `Integration.apply_course` : the same for an application.
-/

namespace Webrev

namespace Integration

/-- What a fetch finds out before it changes anything. -/
structure Findings where
  metadata : Metadata
  uri : Url
  patch : PatchFile
  target : Target
  previous : Previous
  deriving DecidableEq, Repr

/-- Finding out what a fetch needs: the working copy is clean, the patch is there, the commit to
apply to is known, and so is what is checked out. -/
inductive Preparation (request : Request) : Except Error Findings → List Event → Prop
  | notAsked (e : RepositoryError) :
      Preparation request (.error (.repository e)) [.query .isClean (.error e)]
  | dirty : Preparation request (.error .dirtyWorkingCopy) [.query .isClean (.ok false)]
  | notDownloaded {e : Error} {download : List Event}
      (hd : Download request.location (.error e) download) :
      Preparation request (.error e) (.query .isClean (.ok true) :: download)
  | notResolved {metadata : Metadata} {uri : Url} {patch : PatchFile} {e : ResolveError}
      {download resolution : List Event}
      (hd : Download request.location (.ok (metadata, uri, patch)) download)
      (hr : Target.Resolution metadata request.reference (.error e) resolution) :
      Preparation request (.error (.resolve e))
        (.query .isClean (.ok true) :: (download ++ (resolution ++ [.release patch])))
  | notRecorded {metadata : Metadata} {uri : Url} {patch : PatchFile} {target : Target} {e : Error}
      {download resolution recording : List Event}
      (hd : Download request.location (.ok (metadata, uri, patch)) download)
      (hr : Target.Resolution metadata request.reference (.ok target) resolution)
      (hp : Recording (.error e) recording) :
      Preparation request (.error e)
        (.query .isClean (.ok true) ::
          (download ++ (resolution ++ (recording ++ [.release patch]))))
  | prepared {findings : Findings} {download resolution recording : List Event}
      (hd : Download request.location (.ok (findings.metadata, findings.uri, findings.patch))
        download)
      (hr : Target.Resolution findings.metadata request.reference (.ok findings.target) resolution)
      (hp : Recording (.ok findings.previous) recording) :
      Preparation request (.ok findings)
        (.query .isClean (.ok true) :: (download ++ (resolution ++ recording)))

/-- The courses of a fetch. -/
inductive Fetching (request : Request) : Except Error Fetched → List Event → Prop
  | notPrepared {e : Error} {preparation : List Event}
      (hp : Preparation request (.error e) preparation) : Fetching request (.error e) preparation
  | notBranched {findings : Findings} {preparation : List Event}
      (hp : Preparation request (.ok findings) preparation) (e : RepositoryError) :
      Fetching request (.error (.repository e))
        (preparation ++ [.mutation (.branch findings.target.commit request.branch) (.error e),
          .release findings.patch])
  | committed {findings : Findings} {branch : Branch} {commit : CommitHash}
      {preparation committing : List Event} (hp : Preparation request (.ok findings) preparation)
      (hc : Committing branch findings.patch request.location (findings.metadata.author.getD "")
        (.ok commit) committing) :
      Fetching request (.ok ⟨findings.metadata, findings.target, branch, commit⟩)
        (preparation ++ .mutation (.branch findings.target.commit request.branch) (.ok branch) ::
          (committing ++ [.release findings.patch]))
  | takenBack {findings : Findings} {branch : Branch} {e : RepositoryError}
      {undone : Except RepositoryError Unit} {preparation committing undoing : List Event}
      (hp : Preparation request (.ok findings) preparation)
      (hc : Committing branch findings.patch request.location (findings.metadata.author.getD "")
        (.error e) committing)
      (hu : TakingBack findings.previous branch undone undoing) :
      Fetching request (.error (.repository e))
        (preparation ++ .mutation (.branch findings.target.commit request.branch) (.ok branch) ::
          (committing ++ (undoing ++ [.release findings.patch])))

/-- The courses of an application. -/
inductive Applying (location : String) : Except Error Applied → List Event → Prop
  | notDownloaded {e : Error} {download : List Event} (hd : Download location (.error e) download) :
      Applying location (.error e) download
  | notApplied {metadata : Metadata} {uri : Url} {patch : PatchFile} {download : List Event}
      (hd : Download location (.ok (metadata, uri, patch)) download) (e : RepositoryError) :
      Applying location (.error (.repository e))
        (download ++ [.mutation (.apply patch false) (.error e), .release patch])
  | applied {metadata : Metadata} {uri : Url} {patch : PatchFile} {download : List Event}
      (hd : Download location (.ok (metadata, uri, patch)) download) :
      Applying location (.ok ⟨metadata, uri⟩)
        (download ++ [.mutation (.apply patch false) (.ok ()), .release patch])

end Integration

/-! ### What is asked and what is told -/

section Quiet

open Event.Quiet

theorem CommitLookup.asks {reference : String} {outcome : Except ResolveError CommitHash}
    {events : List Event} (h : CommitLookup reference outcome events) :
    ∀ event ∈ events, event.isQuery := by
  cases h <;> exact List.forall_mem_singleton.mpr rfl

theorem BranchLookup.asks {name : String} {outcome : Except ResolveError CommitHash}
    {events : List Event} (h : BranchLookup name outcome events) :
    ∀ event ∈ events, event.isQuery := by
  cases h with
  | failed | unknown => exact List.forall_mem_singleton.mpr rfl
  | listed known hk lookup => exact List.forall_mem_cons.mpr ⟨rfl, lookup.asks⟩

/-- The choice of a commit asks the repository and nobody else. -/
theorem Target.Resolution.asks {metadata : Metadata} {reference : Option String}
    {target : Except ResolveError Target} {events : List Event}
    (h : Target.Resolution metadata reference target events) : ∀ event ∈ events, event.isQuery := by
  cases h with
  | override lookup | branch _ _ lookup => exact lookup.asks
  | revision | nowhere => exact List.forall_mem_nil _

namespace Integration

/-- The record of what is checked out asks the repository and nobody else. -/
theorem Recording.asks {outcome : Except Error Previous} {events : List Event}
    (h : Recording outcome events) : ∀ event ∈ events, event.isQuery := by
  cases h with
  | failed | branch => exact List.forall_mem_singleton.mpr rfl
  | headFailed | noHead | detached =>
    exact List.forall_mem_cons.mpr ⟨rfl, List.forall_mem_singleton.mpr rfl⟩

theorem Reading.quiet {location : String} {outcome : Except AccessError Metadata}
    {events : List Event} (h : Reading location outcome events) : Event.Quiet events := by
  cases h with
  | malformed => exact nil
  | noPage | page => exact cons rfl nil

theorem Download.quiet {location : String} {outcome : Except Error (Metadata × Url × PatchFile)}
    {events : List Event} (h : Download location outcome events) : Event.Quiet events := by
  cases h with
  | notRead h | noLink h => exact h.quiet
  | noPatch h | downloaded h => exact h.quiet.append (cons rfl nil)

/-- Finding out what a fetch needs gives no order. -/
theorem Preparation.quiet {request : Request} {outcome : Except Error Findings}
    {events : List Event} (h : Preparation request outcome events) : Event.Quiet events := by
  cases h with
  | notAsked | dirty => exact cons rfl nil
  | notDownloaded hd => exact cons rfl hd.quiet
  | notResolved hd hr =>
    exact cons rfl (hd.quiet.append ((of_isQuery hr.asks).append (cons rfl nil)))
  | notRecorded hd hr hp =>
    exact cons rfl (hd.quiet.append
      ((of_isQuery hr.asks).append ((of_isQuery hp.asks).append (cons rfl nil))))
  | prepared hd hr hp =>
    exact cons rfl (hd.quiet.append ((of_isQuery hr.asks).append (of_isQuery hp.asks)))

/-- Committing a patch tells the repository what to do, and asks nobody. -/
theorem Committing.orders {branch : Branch} {patch : PatchFile} {message author : String}
    {outcome : Except RepositoryError CommitHash} {events : List Event}
    (h : Committing branch patch message author outcome events) :
    ∀ event ∈ events, event.isMutation := by
  cases h <;> simp [Event.isMutation]

/-- Taking a fetch back tells the repository what to do, and asks nobody. -/
theorem TakingBack.orders {previous : Previous} {created : Branch}
    {outcome : Except RepositoryError Unit} {events : List Event}
    (h : TakingBack previous created outcome events) : ∀ event ∈ events, event.isMutation := by
  cases h <;> cases previous <;> simp [Event.isMutation, Previous.restoring]

end Integration

end Quiet

/-! ### Every run takes one of the courses -/

namespace Told

open Integration

variable {ω : Type} {client : Client ω} {repository : Repository ω}

/-- The downloaded patch of a webrev, committed on a new branch. -/
theorem fetchPatchOnto (request : Request) {metadata : Metadata} {uri : Url} {patch : PatchFile}
    {download : List Event} (hd : Download request.location (.ok (metadata, uri, patch)) download) :
    Told client repository
      (Integration.fetchPatch repository.journaled request metadata patch)
      (Integration.fetchPatch repository request metadata patch)
      fun outcome rest => Fetching request outcome
        (.query .isClean (.ok true) :: (download ++ rest ++ [.release patch])) := by
  refine (resolve metadata request.reference).mapError.bind ?_ ?_
  · rintro e resolution ⟨_ | target, he, hr⟩
    · cases he
      rw [List.append_assoc]
      exact .notPrepared (.notResolved hd hr)
    · cases he
  rintro target resolution ⟨_ | target', he, hr⟩
  · cases he
  cases he
  refine recordPrevious.bind ?_ ?_
  · intro e recording hp
    simp only [List.append_assoc]
    exact .notPrepared (.notRecorded hd hr hp)
  intro previous recording hp
  have hprepared : Preparation request (.ok ⟨metadata, uri, patch, target, previous⟩) _ :=
    .prepared hd hr hp
  refine (mutate (.branch target.commit request.branch)).call_bind ?_ ?_
  · intro e
    simpa using Fetching.notBranched hprepared e
  intro (branch : Branch)
  refine (commitOrRollBack previous branch patch request.location
    (metadata.author.getD "")).bind ?_ ?_
  · rintro e events (_ | ⟨hc, hu⟩)
    simpa using Fetching.takenBack hprepared hc hu
  rintro commit events (hc | _)
  refine pure ?_
  simpa using Fetching.committed hprepared hc

/-- A fetch takes one of its courses. -/
theorem fetch (request : Request) :
    Told client repository
      (Integration.fetch client.journaled repository.journaled request)
      (Integration.fetch client repository request) (Fetching request) := by
  refine (query .isClean).call_bind (fun e => .notPrepared (.notAsked e)) ?_
  rintro (_ | _)
  · exact throw (.notPrepared .dirty)
  refine withWebrev request.location (fun e download hd => .notPrepared (.notDownloaded hd)) ?_
  exact fun metadata uri patch download hd => fetchPatchOnto request hd

/-- An application takes one of its courses. -/
theorem apply (location : String) :
    Told client repository
      (Integration.apply client.journaled repository.journaled location)
      (Integration.apply client repository location) (Applying location) := by
  refine withWebrev location (fun e download hd => .notDownloaded hd) ?_
  intro metadata uri patch download hd
  refine (mutate (.apply patch false)).call_bind ?_ ?_
  · intro e
    simpa using Applying.notApplied hd e
  rintro ⟨⟩
  refine pure ?_
  simpa using Applying.applied hd

end Told

namespace Integration

variable {ω : Type} (client : Client ω) (repository : Repository ω)

/-- The calls that a fetch makes. -/
def fetchEvents (request : Request) (world : ω) : List Event :=
  ((fetch client.journaled repository.journaled request).runAt ⟨world, []⟩).2.events

/-- The calls that an application makes. -/
def applyEvents (location : String) (world : ω) : List Event :=
  ((apply client.journaled repository.journaled location).runAt ⟨world, []⟩).2.events

/-- **Every fetch takes one of its courses.** Its calls lead to the world that it leaves, and they
are those of a course with its outcome. -/
theorem fetch_course (request : Request) (world : ω) :
    Event.Path client repository world (fetchEvents client repository request world)
        ((fetch client repository request).runAt world).2 ∧
      Fetching request ((fetch client repository request).runAt world).1
        (fetchEvents client repository request world) :=
  ((Told.fetch request).run world).2.2

/-- **Every application takes one of its courses.** Its calls lead to the world that it leaves, and
they are those of a course with its outcome. -/
theorem apply_course (location : String) (world : ω) :
    Event.Path client repository world (applyEvents client repository location world)
        ((apply client repository location).runAt world).2 ∧
      Applying location ((apply client repository location).runAt world).1
        (applyEvents client repository location world) :=
  ((Told.apply location).run world).2.2

end Integration

end Webrev
