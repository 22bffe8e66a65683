import Webrev.Integration
import Webrev.Proofs.Journal.Told

/-!
# What bringing in a webrev asks and tells

The calls of the parts of `Integration.apply` and `Integration.fetch`: the download, the choice of
the commit to apply to, the record of what is checked out, the commit of the patch, and the steps
that take a fetch back. For each part an account lists the ways in which it can end, with the calls
that it makes on the way, and a theorem says that every run of the part is one of them.

## Main definitions

* `Target.Resolution` : the choice of the commit that a webrev applies to.
* `Integration.Recording` : the record of what is checked out.
* `Integration.Reading` : the metadata of the webrev at a location.
* `Integration.Download` : the metadata and the patch of the webrev at a location.
* `Integration.Committing` : a patch committed on a branch.
* `Integration.TakingBack` : a fetch taken back.
* `Integration.CommittingOrTakingBack` : one of the two, by the outcome of the commit.

## Main results

* `Told.resolve`, `Told.recordPrevious`, `Told.commitPatch`, `Told.takeBack` : the parts of a fetch.
* `Told.withWebrev` : a step with a downloaded webrev, whose patch is released after it.
-/

namespace Webrev

open Integration

variable {ω : Type} {client : Client ω} {repository : Repository ω}

/-! ### The commit to apply to -/

/-- The commit that a reference denotes. -/
inductive CommitLookup (reference : String) : Except ResolveError CommitHash → List Event → Prop
  | failed (e : RepositoryError) :
      CommitLookup reference (.error (.repository e)) [.query (.resolve reference) (.error e)]
  | unknown :
      CommitLookup reference (.error (.unresolvableReference reference))
        [.query (.resolve reference) (.ok none)]
  | found (commit : CommitHash) :
      CommitLookup reference (.ok commit) [.query (.resolve reference) (.ok (some commit))]

/-- The repository has a branch by a name when the name is one of those of its branches. -/
theorem any_name_iff {known : List Branch} {name : String} :
    (known.any fun branch => branch.name == name) = true ↔ name ∈ known.map Branch.name := by
  simp

/-- The commit of a branch that the repository has. -/
inductive BranchLookup (name : String) : Except ResolveError CommitHash → List Event → Prop
  | failed (e : RepositoryError) :
      BranchLookup name (.error (.repository e)) [.query .branches (.error e)]
  | unknown (known : List Branch) (h : (known.any fun branch => branch.name == name) = false) :
      BranchLookup name (.error (.unknownBranch name)) [.query .branches (.ok known)]
  | listed (known : List Branch) (h : (known.any fun branch => branch.name == name) = true)
      {outcome : Except ResolveError CommitHash} {events : List Event}
      (lookup : CommitLookup name outcome events) :
      BranchLookup name outcome (.query .branches (.ok known) :: events)

/-- The choice of the commit that a webrev applies to. -/
inductive Target.Resolution (metadata : Metadata) :
    Option String → Except ResolveError Target → List Event → Prop
  | override {reference : String} {outcome : Except ResolveError CommitHash}
      {target : Except ResolveError Target} {events : List Event}
      (lookup : CommitLookup reference outcome events)
      (ht : target = outcome.map fun commit => ⟨commit, .override⟩) :
      Resolution metadata (some reference) target events
  | revision {revision : String} (h : metadata.compareAgainstRevision = some revision) :
      Resolution metadata none (.ok ⟨⟨revision⟩, .compareAgainstRevision⟩) []
  | branch {name : String} {outcome : Except ResolveError CommitHash}
      {target : Except ResolveError Target} {events : List Event}
      (hr : metadata.compareAgainstRevision = none) (hb : metadata.branch = some name)
      (lookup : BranchLookup name outcome events)
      (ht : target = outcome.map fun commit => ⟨commit, .branch⟩) :
      Resolution metadata none target events
  | nowhere (hr : metadata.compareAgainstRevision = none) (hb : metadata.branch = none) :
      Resolution metadata none (.error .noResolutionPath) []

namespace Told

theorem commitOf (reference : String) :
    Told client repository (repository.journaled.commitOf reference)
      (repository.commitOf reference) (CommitLookup reference) := by
  refine (query (.resolve reference)).call_bind (fun e => .failed e) ?_
  rintro (_ | commit)
  · exact throw .unknown
  · exact pure (.found commit)

theorem commitOfBranch (name : String) :
    Told client repository (repository.journaled.commitOfBranch name)
      (repository.commitOfBranch name) (BranchLookup name) := by
  refine (query .branches).call_bind (fun e => .failed e) fun (known : List Branch) => ?_
  cases h : known.any fun branch => branch.name == name with
  | true =>
    simp only [↓reduceIte]
    exact (commitOf name).mono fun _ _ => .listed known h
  | false =>
    simp only [Bool.false_eq_true, ↓reduceIte]
    exact throw (.unknown known h)

/-- The choice of the commit that a webrev applies to. -/
theorem resolve (metadata : Metadata) (reference : Option String) :
    Told client repository (Target.resolve repository.journaled.toQueries metadata reference)
      (Target.resolve repository.toQueries metadata reference)
      (Target.Resolution metadata reference) := by
  unfold Target.resolve
  cases reference with
  | some reference =>
    refine (commitOf reference).bind (fun _ _ h => .override h rfl) fun commit events h => pure ?_
    rw [List.append_nil]
    exact .override h rfl
  | none =>
    cases hr : metadata.compareAgainstRevision with
    | some revision => exact pure (.revision hr)
    | none =>
      cases hb : metadata.branch with
      | some name =>
        refine (commitOfBranch name).bind (fun _ _ h => .branch hr hb h rfl) ?_
        refine fun commit events h => pure ?_
        rw [List.append_nil]
        exact .branch hr hb h rfl
      | none => exact throw (.nowhere hr hb)

end Told

namespace Integration

/-! ### What is checked out -/

/-- The record of what is checked out. -/
inductive Recording : Except Error Previous → List Event → Prop
  | failed (e : RepositoryError) :
      Recording (.error (.repository e)) [.query .currentBranch (.error e)]
  | branch (branch : Branch) :
      Recording (.ok (.branch branch)) [.query .currentBranch (.ok (some branch))]
  | headFailed (e : RepositoryError) :
      Recording (.error (.repository e))
        [.query .currentBranch (.ok none), .query (.resolve "HEAD") (.error e)]
  | noHead :
      Recording (.error (.resolve (.unresolvableReference "HEAD")))
        [.query .currentBranch (.ok none), .query (.resolve "HEAD") (.ok none)]
  | detached (commit : CommitHash) :
      Recording (.ok (.detached commit))
        [.query .currentBranch (.ok none), .query (.resolve "HEAD") (.ok (some commit))]

/-! ### The patch -/

/-- A patch committed on a branch. -/
inductive Committing (branch : Branch) (patch : PatchFile) (message author : String) :
    Except RepositoryError CommitHash → List Event → Prop
  | notCheckedOut (e : RepositoryError) :
      Committing branch patch message author (.error e) [.mutation (.checkout branch) (.error e)]
  | notApplied (e : RepositoryError) :
      Committing branch patch message author (.error e)
        [.mutation (.checkout branch) (.ok ()), .mutation (.apply patch false) (.error e)]
  | committed (outcome : Except RepositoryError CommitHash) :
      Committing branch patch message author outcome
        [.mutation (.checkout branch) (.ok ()), .mutation (.apply patch false) (.ok ()),
          .mutation (.commit message author "") outcome]

/-- The order that checks out again what was checked out before. -/
def Previous.restoring : Previous → Except RepositoryError Unit → Event
  | .branch name, outcome => .mutation (.checkout name) outcome
  | .detached commit, outcome => .mutation (.detach commit) outcome

/-- A fetch taken back. -/
inductive TakingBack (previous : Previous) (created : Branch) :
    Except RepositoryError Unit → List Event → Prop
  | notDiscarded (e : RepositoryError) :
      TakingBack previous created (.error e) [.mutation .discardChanges (.error e)]
  | notRestored (e : RepositoryError) :
      TakingBack previous created (.error e)
        [.mutation .discardChanges (.ok ()), previous.restoring (.error e)]
  | deleted (outcome : Except RepositoryError Unit) :
      TakingBack previous created outcome
        [.mutation .discardChanges (.ok ()), previous.restoring (.ok ()),
          .mutation (.deleteBranch created) outcome]

/-- A patch committed on a branch, or a fetch taken back. -/
inductive CommittingOrTakingBack (previous : Previous) (branch : Branch) (patch : PatchFile)
    (message author : String) : Except Error CommitHash → List Event → Prop
  | committed {commit : CommitHash} {events : List Event}
      (h : Committing branch patch message author (.ok commit) events) :
      CommittingOrTakingBack previous branch patch message author (.ok commit) events
  | takenBack {e : RepositoryError} {undone : Except RepositoryError Unit}
      {events undoing : List Event} (h : Committing branch patch message author (.error e) events)
      (hu : TakingBack previous branch undone undoing) :
      CommittingOrTakingBack previous branch patch message author (.error (.repository e))
        (events ++ undoing)

/-! ### The download -/

/-- The metadata of the webrev at a location. -/
inductive Reading (location : String) : Except AccessError Metadata → List Event → Prop
  | malformed {fault : Location.Fault} (hs : Location.sanitize location = .error fault) :
      Reading location (.error (.malformedLocation location fault)) []
  | noPage {source : Url} (hs : Location.sanitize location = .ok source) (e : AccessError) :
      Reading location (.error e) [.header source (.error e)]
  | page {source : Url} {header : Page.Header} {outcome : Except AccessError Metadata}
      (hs : Location.sanitize location = .ok source)
      (hm : Metadata.ofHeader header source = outcome) :
      Reading location outcome [.header source (.ok header)]

/-- The metadata, the link to the patch and the patch of the webrev at a location. -/
inductive Download (location : String) :
    Except Error (Metadata × Url × PatchFile) → List Event → Prop
  | notRead {e : AccessError} {events : List Event} (h : Reading location (.error e) events) :
      Download location (.error (.access e)) events
  | noLink {metadata : Metadata} {events : List Event} (h : Reading location (.ok metadata) events)
      (hl : metadata.patchUri = none) :
      Download location (.error (.patchNotFound metadata.sourceUri)) events
  | noPatch {metadata : Metadata} {uri : Url} {events : List Event}
      (h : Reading location (.ok metadata) events) (hl : metadata.patchUri = some uri)
      (e : AccessError) :
      Download location (.error (.access e)) (events ++ [.patch uri (.error e)])
  | downloaded {metadata : Metadata} {uri : Url} {events : List Event}
      (h : Reading location (.ok metadata) events) (hl : metadata.patchUri = some uri)
      (patch : PatchFile) :
      Download location (.ok (metadata, uri, patch)) (events ++ [.patch uri (.ok patch)])

end Integration

namespace Told

/-- The record of what is checked out. -/
theorem recordPrevious :
    Told client repository (Integration.recordPrevious repository.journaled.toQueries)
      (Integration.recordPrevious repository.toQueries) Recording := by
  refine (query .currentBranch).call_bind (fun e => .failed e) ?_
  rintro (_ | branch)
  · refine (query (.resolve "HEAD")).call_bind (fun e => .headFailed e) ?_
    rintro (_ | commit)
    · exact throw .noHead
    · exact pure (.detached commit)
  · exact pure (.branch branch)

/-- A patch committed on a branch. -/
theorem commitPatch (branch : Branch) (patch : PatchFile) (message author : String) :
    Told client repository
      (Integration.commitPatch repository.journaled branch patch message author)
      (Integration.commitPatch repository branch patch message author)
      (Committing branch patch message author) := by
  refine (mutate (.checkout branch)).bind ?_ ?_
  · rintro e events rfl
    exact .notCheckedOut e
  rintro ⟨⟩ events rfl
  refine (mutate (.apply patch false)).bind ?_ ?_
  · rintro e events rfl
    exact .notApplied e
  rintro ⟨⟩ events rfl
  refine (mutate (.commit message author "")).mono ?_
  rintro outcome events rfl
  exact .committed outcome

theorem restore (previous : Previous) :
    Told client repository (previous.restore repository.journaled) (previous.restore repository)
      fun outcome events => events = [previous.restoring outcome] := by
  cases previous with
  | branch branch => exact mutate (.checkout branch)
  | detached commit => exact mutate (.detach commit)

/-- A fetch taken back. -/
theorem takeBack (previous : Previous) (created : Branch) :
    Told client repository (Integration.takeBack repository.journaled previous created)
      (Integration.takeBack repository previous created) (TakingBack previous created) := by
  refine (mutate .discardChanges).bind ?_ ?_
  · rintro e events rfl
    exact .notDiscarded e
  rintro ⟨⟩ events rfl
  refine (restore previous).bind ?_ ?_
  · rintro e events rfl
    exact .notRestored e
  rintro ⟨⟩ events rfl
  refine (mutate (.deleteBranch created)).mono ?_
  rintro outcome events rfl
  exact .deleted outcome

/-- A fetch is taken back as far as possible, and the outcome stays as it is. -/
theorem rollBack (previous : Previous) (created : Branch) {α : Type} {outcome : Except Error α}
    {account : Except Error α → List Event → Prop}
    (h : ∀ undone events, TakingBack previous created undone events → account outcome events) :
    Told client repository
      (ExceptT.mk do Integration.rollBack repository.journaled previous created; return outcome)
      (ExceptT.mk do Integration.rollBack repository previous created; return outcome) account := by
  have hback : Told client repository _ _ _ := takeBack previous created
  intro journal
  obtain ⟨undone, world, events, hs, ht, hp, ha⟩ := hback journal
  refine ⟨outcome, world, events, ?_, ?_, hp, h undone events ha⟩
  · exact congrArg (fun last => (outcome, Prod.snd last)) hs
  · exact congrArg (fun last => (outcome, Prod.snd last)) ht

/-- A patch committed on a branch; if that fails, the fetch is taken back. -/
theorem commitOrRollBack (previous : Previous) (branch : Branch) (patch : PatchFile)
    (message author : String) :
    Told client repository
      (Integration.commitOrRollBack repository.journaled previous branch patch message author)
      (Integration.commitOrRollBack repository previous branch patch message author)
      (CommittingOrTakingBack previous branch patch message author) := by
  refine (commitPatch branch patch message author).mk_bind ?_
  rintro (e | commit) events hc
  · exact rollBack previous branch fun _ _ hu => .takenBack hc hu
  · refine pure ?_
    rw [List.append_nil]
    exact .committed hc

/-- The metadata of the webrev at a location. -/
theorem fetchMetadata (location : String) :
    Told client repository (client.journaled.fetchMetadata location) (client.fetchMetadata location)
      (Reading location) := by
  unfold Client.fetchMetadata
  cases hs : Location.sanitize location with
  | error fault => exact throw (.malformed hs)
  | ok source =>
    refine (fetchHeader source).bind ?_ ?_
    · rintro e events rfl
      exact .noPage hs e
    rintro header events rfl
    exact ofExcept (.page hs rfl)

/-- A step with a downloaded patch, whose file is released afterwards. -/
theorem withPatch {α : Type} (uri : Url) {step : PatchFile → Attempt ω Error α}
    {told : PatchFile → Attempt (Journal ω) Error α} {account : Except Error α → List Event → Prop}
    (herror : ∀ e, account (.error (.access e)) [.patch uri (.error e)])
    (hok : ∀ patch, Told client repository (told patch) (step patch)
      fun outcome events =>
        account outcome (.patch uri (.ok patch) :: (events ++ [.release patch]))) :
    Told client repository (Integration.withPatch client.journaled uri told)
      (Integration.withPatch client uri step) account := by
  refine (fetchPatch uri).call_bind herror fun patch => ?_
  exact (hok patch).mk_bind fun _ _ h => release patch h

/-- A step with a downloaded webrev, whose patch is released afterwards. -/
theorem withWebrev {α : Type} (location : String)
    {step : Metadata → Url → PatchFile → Attempt ω Error α}
    {told : Metadata → Url → PatchFile → Attempt (Journal ω) Error α}
    {account : Except Error α → List Event → Prop}
    (herror : ∀ e events, Download location (.error e) events → account (.error e) events)
    (hok : ∀ metadata uri patch events, Download location (.ok (metadata, uri, patch)) events →
      Told client repository (told metadata uri patch) (step metadata uri patch)
        fun outcome rest => account outcome (events ++ rest ++ [.release patch])) :
    Told client repository (Integration.withWebrev client.journaled location told)
      (Integration.withWebrev client location step) account := by
  refine (fetchMetadata location).mapError.bind ?_ ?_
  · rintro e events ⟨_ | metadata, he, h⟩
    · cases he
      exact herror _ _ (.notRead h)
    · cases he
  rintro metadata events ⟨_ | metadata', he, h⟩
  · cases he
  cases he
  cases hl : metadata.patchUri with
  | none =>
    refine throw ?_
    rw [List.append_nil]
    exact herror _ _ (.noLink h hl)
  | some uri =>
    refine withPatch uri (fun e => herror _ _ (.noPatch h hl e)) fun patch => ?_
    refine (hok metadata uri patch _ (.downloaded h hl patch)).mono fun outcome rest ha => ?_
    simpa only [List.append_assoc, List.cons_append, List.nil_append] using ha

end Told

end Webrev
