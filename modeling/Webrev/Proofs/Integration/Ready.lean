import Webrev.Proofs.Integration.Rollback

/-!
# What a fetch needs

A fetch in a repository in memory needs a clean working copy, a page that is read and gives a record
with a link, a patch behind the link, a commit to apply it to, and a branch or a commit to go back
to. All of this can be said of the world in which the fetch begins, since its questions change
nothing there. Beyond it a fetch only needs that no call to the repository fails.

## Main definitions

* `Client.Reads`, `Client.Provides` : the record and the patch that a client has at a location.
* `Memory.Resolves`, `Memory.KnowsHead` : what a fetch needs of a repository.
* `Integration.Ready` : everything that a fetch needs is there.
* `Integration.Undisturbed` : no call to the repository fails.

## Main results

* `Integration.Fetching.undisturbed` : in a fetch that succeeds nothing is refused.
* `Target.Resolution.isOk_iff`, `Integration.Recording.isOk_iff` : what is asked of the repository.
* `Integration.Download.eq_ok_of_provides` : what is asked of the network.
* `Integration.Fetching.isOk_iff` : a fetch succeeds when everything is there and nothing is
  refused.
-/

namespace Webrev

/-! ### What a fetch needs -/

section Client

variable {σ : Type} (client : Client σ) (location : String) (session : σ)

/-- A client has the table of the page at a location, and the table gives a record. -/
def Client.Reads (metadata : Metadata) (read : σ) : Prop :=
  ∃ source header, Location.sanitize location = .ok source ∧
    (client.fetchHeader source).runAt session = (.ok header, read) ∧
    Metadata.ofHeader header source = .ok metadata

/-- A client has the page at a location and, after it, the patch that the page links to. -/
def Client.Provides (metadata : Metadata) (uri : Url) (patch : PatchFile) : Prop :=
  ∃ read held, client.Reads location session metadata read ∧ metadata.patchUri = some uri ∧
    (client.fetchPatch uri).runAt read = (.ok patch, held)

end Client

namespace Memory

/-- A webrev applies to a commit that is known. A revision on its page is not looked up. -/
def Resolves (memory : Memory) (metadata : Metadata) (reference : Option String) : Prop :=
  match reference, metadata.compareAgainstRevision, metadata.branch with
  | some name, _, _ => (memory.refs.lookup name).isSome
  | none, some _, _ => True
  | none, none, some name =>
    name ∈ memory.branches.map Branch.name ∧ (memory.refs.lookup name).isSome
  | none, none, none => False

/-- A branch is checked out, or a commit that is known. -/
def KnowsHead (memory : Memory) : Prop :=
  memory.current.isSome ∨ (memory.refs.lookup "HEAD").isSome

end Memory

namespace Integration

/-- Everything that a fetch needs is there. -/
structure Ready {σ : Type} (client : Client σ) (request : Request) (world : Memory × σ) : Prop where
  clean : world.1.clean = true
  found : ∃ metadata uri patch, client.Provides request.location world.2 metadata uri patch ∧
    world.1.Resolves metadata request.reference
  knowsHead : world.1.KnowsHead

/-! ### Parts that succeed -/

section Parts

variable {location : String} {events : List Event}

theorem Download.exists_page {metadata : Metadata} {uri : Url} {patch : PatchFile}
    (h : Download location (.ok (metadata, uri, patch)) events) :
    ∃ source header, Location.sanitize location = .ok source ∧
      Metadata.ofHeader header source = .ok metadata ∧ metadata.patchUri = some uri ∧
      events = [.header source (.ok header), .patch uri (.ok patch)] := by
  cases h with
  | downloaded hread hl =>
    cases hread with
    | page hs hm => exact ⟨_, _, hs, hm, hl, rfl⟩

theorem Committing.eq_of_ok {branch : Branch} {patch : PatchFile} {message author : String}
    {commit : CommitHash} (h : Committing branch patch message author (.ok commit) events) :
    events = [.mutation (.checkout branch) (.ok ()), .mutation (.apply patch false) (.ok ()),
      .mutation (.commit message author "") (.ok commit)] := by
  cases h with
  | committed => rfl

end Parts

/-! ### Runs in which nothing is refused -/

/-- No call to the repository failed. -/
def Undisturbed (events : List Event) : Prop :=
  ∀ event ∈ events, event.actsOutside = false → event.succeeded = true

namespace Undisturbed

variable {front rest events : List Event} {event : Event}

theorem nil : Undisturbed [] := List.forall_mem_nil _

theorem cons (he : event.actsOutside = false → event.succeeded = true) (h : Undisturbed events) :
    Undisturbed (event :: events) :=
  List.forall_mem_cons.mpr ⟨he, h⟩

theorem append_iff : Undisturbed (front ++ rest) ↔ Undisturbed front ∧ Undisturbed rest :=
  List.forall_mem_append

theorem tail (h : Undisturbed (event :: events)) : Undisturbed events :=
  (List.forall_mem_cons.mp h).2

end Undisturbed

end Integration

open Integration

section Undisturbed

variable {events : List Event}

theorem CommitLookup.undisturbed {name : String} {commit : CommitHash}
    (h : CommitLookup name (.ok commit) events) : Undisturbed events := by
  cases h with
  | found => exact .cons (fun _ => rfl) .nil

theorem BranchLookup.undisturbed {name : String} {commit : CommitHash}
    (h : BranchLookup name (.ok commit) events) : Undisturbed events := by
  cases h with
  | listed known hknown lookup => exact .cons (fun _ => rfl) lookup.undisturbed

theorem Target.Resolution.undisturbed {metadata : Metadata} {reference : Option String}
    {target : Target} (h : Target.Resolution metadata reference (.ok target) events) :
    Undisturbed events := by
  cases h with
  | @override _ outcome _ _ lookup ht =>
    cases outcome with
    | error => exact nomatch ht
    | ok => exact lookup.undisturbed
  | revision => exact .nil
  | @branch _ outcome _ _ hr hb lookup ht =>
    cases outcome with
    | error => exact nomatch ht
    | ok => exact lookup.undisturbed

namespace Integration

theorem Recording.undisturbed {previous : Previous} (h : Recording (.ok previous) events) :
    Undisturbed events := by
  cases h with
  | branch => exact .cons (fun _ => rfl) .nil
  | detached => exact .cons (fun _ => rfl) (.cons (fun _ => rfl) .nil)

theorem Download.undisturbed {location : String} {metadata : Metadata} {uri : Url}
    {patch : PatchFile} (h : Download location (.ok (metadata, uri, patch)) events) :
    Undisturbed events := by
  obtain ⟨source, header, -, -, -, rfl⟩ := h.exists_page
  exact .cons nofun (.cons nofun .nil)

theorem Preparation.undisturbed {request : Request} {findings : Findings}
    (h : Preparation request (.ok findings) events) : Undisturbed events := by
  cases h with
  | prepared hd hr hc =>
    exact .cons (fun _ => rfl) (Undisturbed.append_iff.mpr
      ⟨hd.undisturbed, Undisturbed.append_iff.mpr ⟨hr.undisturbed, hc.undisturbed⟩⟩)

theorem Committing.undisturbed {branch : Branch} {patch : PatchFile} {message author : String}
    {commit : CommitHash} (h : Committing branch patch message author (.ok commit) events) :
    Undisturbed events := by
  obtain rfl := h.eq_of_ok
  exact .cons (fun _ => rfl) (.cons (fun _ => rfl) (.cons (fun _ => rfl) .nil))

/-- In a fetch that succeeds nothing is refused. -/
theorem Fetching.undisturbed {request : Request} {fetched : Fetched}
    (h : Fetching request (.ok fetched) events) : Undisturbed events := by
  cases h with
  | committed hprep hc =>
    exact Undisturbed.append_iff.mpr ⟨hprep.undisturbed, .cons (fun _ => rfl)
      (Undisturbed.append_iff.mpr ⟨hc.undisturbed, .cons nofun .nil⟩)⟩

end Integration

end Undisturbed

/-! ### Questions that are answered -/

section Answered

variable {memory last : Memory} {metadata : Metadata} {reference : Option String}
  {events : List Event}

theorem CommitLookup.isOk_iff {name : String} {outcome : Except ResolveError CommitHash}
    (h : CommitLookup name outcome events) (hp : memory.Plays events last)
    (hs : Undisturbed events) :
    outcome.isOk = true ↔ (memory.refs.lookup name).isSome := by
  cases h with
  | failed => exact nomatch hs _ (List.mem_singleton_self _) rfl
  | unknown =>
    have hanswer : none = memory.refs.lookup name := hp.1
    rw [← hanswer]
    exact iff_of_false nofun nofun
  | found commit =>
    have hanswer : some commit = memory.refs.lookup name := hp.1
    rw [← hanswer]
    exact iff_of_true rfl rfl

theorem BranchLookup.isOk_iff {name : String} {outcome : Except ResolveError CommitHash}
    (h : BranchLookup name outcome events) (hp : memory.Plays events last)
    (hs : Undisturbed events) :
    outcome.isOk = true ↔
      name ∈ memory.branches.map Branch.name ∧ (memory.refs.lookup name).isSome := by
  cases h with
  | failed => exact nomatch hs _ (List.mem_singleton_self _) rfl
  | unknown known hunknown =>
    obtain rfl : known = memory.branches := hp.1
    exact iff_of_false nofun fun h => nomatch hunknown.symm.trans (any_name_iff.mpr h.1)
  | listed known hknown lookup =>
    obtain rfl : known = memory.branches := hp.1
    rw [lookup.isOk_iff hp.2 hs.tail]
    exact (and_iff_right (any_name_iff.mp hknown)).symm

/-- A commit is chosen when it is known, and no question fails. -/
theorem Target.Resolution.isOk_iff {target : Except ResolveError Target}
    (h : Target.Resolution metadata reference target events) (hp : memory.Plays events last)
    (hs : Undisturbed events) :
    target.isOk = true ↔ memory.Resolves metadata reference := by
  have hmap : ∀ (outcome : Except ResolveError CommitHash) (origin : Target.Origin),
      (outcome.map fun commit => (⟨commit, origin⟩ : Target)).isOk = outcome.isOk := by
    intro outcome origin
    cases outcome <;> rfl
  cases h with
  | override lookup ht =>
    rw [ht, hmap, lookup.isOk_iff hp hs]
    exact Iff.rfl
  | revision hr =>
    unfold Memory.Resolves
    rw [hr]
    exact iff_of_true rfl trivial
  | branch hr hb lookup ht =>
    unfold Memory.Resolves
    rw [ht, hmap, lookup.isOk_iff hp hs, hr, hb]
  | nowhere hr hb =>
    unfold Memory.Resolves
    rw [hr, hb]
    exact iff_of_false nofun id

/-- What is checked out is recorded when it is known, and no question fails. -/
theorem Integration.Recording.isOk_iff {outcome : Except Error Previous}
    (h : Recording outcome events) (hp : memory.Plays events last) (hs : Undisturbed events) :
    outcome.isOk = true ↔ memory.KnowsHead := by
  unfold Memory.KnowsHead
  cases h with
  | failed => exact nomatch hs _ (List.mem_singleton_self _) rfl
  | headFailed => exact nomatch hs _ (List.mem_cons_of_mem _ (List.mem_singleton_self _)) rfl
  | branch branch =>
    have hcurrent : some branch = memory.current := hp.1
    rw [← hcurrent]
    exact iff_of_true rfl (.inl rfl)
  | noHead =>
    have hcurrent : none = memory.current := hp.1
    have hhead : none = memory.refs.lookup "HEAD" := hp.2.1
    rw [← hcurrent, ← hhead]
    exact iff_of_false nofun (by rintro (h | h) <;> cases h)
  | detached commit =>
    have hhead : some commit = memory.refs.lookup "HEAD" := hp.2.1
    rw [← hhead]
    exact iff_of_true rfl (.inr rfl)

end Answered

/-! ### Downloads that are there -/

section Downloads

variable {σ : Type} {client : Client σ} {world next last : Memory × σ} {location : String}
  {events : List Event}

theorem Event.Takes.header_outside {url : Url} {outcome : Except AccessError Page.Header}
    (h : (Event.header url outcome).Takes client.beside Memory.beside world next) :
    (client.fetchHeader url).runAt world.2 = (outcome, next.2) := by
  have hzoom : (client.beside.fetchHeader url).runAt world = (outcome, next) := h
  rw [Client.beside, Client.zoom, Attempt.runAt_zoom] at hzoom
  cases hzoom
  rfl

theorem Event.Takes.patch_outside {url : Url} {outcome : Except AccessError PatchFile}
    (h : (Event.patch url outcome).Takes client.beside Memory.beside world next) :
    (client.fetchPatch url).runAt world.2 = (outcome, next.2) := by
  have hzoom : (client.beside.fetchPatch url).runAt world = (outcome, next) := h
  rw [Client.beside, Client.zoom, Attempt.runAt_zoom] at hzoom
  cases hzoom
  rfl

namespace Integration

/-- A record that is there is read. -/
theorem Reading.eq_ok_of_reads {outcome : Except AccessError Metadata} {metadata : Metadata}
    {read : σ} (h : Reading location outcome events)
    (hp : Event.Path client.beside Memory.beside world events last)
    (hr : client.Reads location world.2 metadata read) :
    outcome = .ok metadata ∧ read = last.2 := by
  obtain ⟨source, header, hsource, hheader, hm⟩ := hr
  cases h with
  | malformed hs => exact nomatch hs.symm.trans hsource
  | noPage hs =>
    obtain rfl := Except.ok.inj (hs.symm.trans hsource)
    cases hp with
    | cons first rest => exact nomatch congrArg Prod.fst (first.header_outside.symm.trans hheader)
  | page hs hm' =>
    obtain rfl := Except.ok.inj (hs.symm.trans hsource)
    cases hp with
    | cons first rest =>
      cases rest
      obtain ⟨hsame, rfl⟩ := Prod.mk.inj (first.header_outside.symm.trans hheader)
      obtain rfl := Except.ok.inj hsame
      exact ⟨hm'.symm.trans hm, rfl⟩

/-- A record that is read is there. -/
theorem Reading.reads {metadata : Metadata} (h : Reading location (.ok metadata) events)
    (hp : Event.Path client.beside Memory.beside world events last) :
    client.Reads location world.2 metadata last.2 := by
  cases h with
  | page hs hm =>
    cases hp with
    | cons first rest =>
      cases rest
      exact ⟨_, _, hs, first.header_outside, hm⟩

/-- Behind the link of a page that is read there is the patch. -/
theorem Reading.got_of_provides {metadata metadata' : Metadata} {uri uri' : Url}
    {patch : PatchFile} {got : Except AccessError PatchFile}
    (h : Reading location (.ok metadata') events) (hl : metadata'.patchUri = some uri')
    (hp : Event.Path client.beside Memory.beside world (events ++ [.patch uri' got]) last)
    (hr : client.Provides location world.2 metadata uri patch) :
    metadata' = metadata ∧ uri' = uri ∧ got = .ok patch := by
  obtain ⟨read, held, hreads, hlink, hpatch⟩ := hr
  obtain ⟨middle, hread, hasked⟩ := hp.split
  obtain ⟨hm, rfl⟩ := h.eq_ok_of_reads hread hreads
  obtain rfl := Except.ok.inj hm
  obtain rfl := Option.some.inj (hl.symm.trans hlink)
  cases hasked with
  | cons first rest =>
    exact ⟨rfl, rfl, congrArg Prod.fst (first.patch_outside.symm.trans hpatch)⟩

/-- A patch that is there is downloaded. -/
theorem Download.eq_ok_of_provides {outcome : Except Error (Metadata × Url × PatchFile)}
    {metadata : Metadata} {uri : Url} {patch : PatchFile} (h : Download location outcome events)
    (hp : Event.Path client.beside Memory.beside world events last)
    (hr : client.Provides location world.2 metadata uri patch) :
    outcome = .ok (metadata, uri, patch) := by
  cases h with
  | notRead h =>
    obtain ⟨read, held, hreads, -⟩ := hr
    exact nomatch (h.eq_ok_of_reads hp hreads).1
  | noLink h hnone =>
    obtain ⟨read, held, hreads, hlink, -⟩ := hr
    obtain rfl := Except.ok.inj (h.eq_ok_of_reads hp hreads).1
    exact nomatch hnone.symm.trans hlink
  | noPatch h hl => exact nomatch (h.got_of_provides hl hp hr).2.2
  | downloaded h hl =>
    obtain ⟨rfl, rfl, hgot⟩ := h.got_of_provides hl hp hr
    rw [Except.ok.inj hgot]

/-- A patch that is downloaded is there. -/
theorem Download.provides {metadata : Metadata} {uri : Url} {patch : PatchFile}
    (h : Download location (.ok (metadata, uri, patch)) events)
    (hp : Event.Path client.beside Memory.beside world events last) :
    client.Provides location world.2 metadata uri patch := by
  cases h with
  | downloaded h hl patch =>
    obtain ⟨middle, hread, hasked⟩ := hp.split
    cases hasked with
    | cons first rest => exact ⟨middle.2, _, h.reads hread, hl, first.patch_outside⟩

end Integration

end Downloads

/-! ### Everything is there -/

namespace Integration

section Ready

variable {σ : Type} {client : Client σ} {request : Request} {world last : Memory × σ}
  {metadata : Metadata} {uri : Url} {patch : PatchFile} {download rest events : List Event}

/-- After the download what counts is what the repository knows. -/
theorem Download.ready_iff (hd : Download request.location (.ok (metadata, uri, patch)) download)
    (hp : Event.Path client.beside Memory.beside world
      (.query .isClean (.ok true) :: (download ++ rest)) last) :
    (Ready client request world ↔
        world.1.Resolves metadata request.reference ∧ world.1.KnowsHead) ∧
      world.1.knowledge.Plays rest last.1.knowledge := by
  have hplays := hp.plays
  obtain ⟨middle, hquiet, hrest⟩ := Memory.Plays.append_iff.mp hplays.2
  obtain rfl := hquiet.eq_of_quiet hd.quiet
  cases hp with
  | cons first hpath =>
  obtain ⟨read, hdownload, -⟩ := hpath.split
  have hprovides := hd.provides hdownload
  rw [first.outside_eq rfl] at hprovides
  refine ⟨⟨fun hr => ⟨?_, hr.knowsHead⟩, fun ⟨hr, hh⟩ =>
    ⟨hplays.1.symm, ⟨metadata, uri, patch, hprovides, hr⟩, hh⟩⟩, hrest⟩
  obtain ⟨metadata', uri', patch', hprovides', hresolves⟩ := hr.found
  rw [← first.outside_eq rfl] at hprovides'
  obtain ⟨rfl, -⟩ := Prod.mk.inj (Except.ok.inj (hd.eq_ok_of_provides hdownload hprovides'))
  exact hresolves

/-- Everything that a fetch needs is found when it is there, and no question fails. -/
theorem Preparation.isOk_iff {outcome : Except Error Findings}
    (h : Preparation request outcome events)
    (hp : Event.Path client.beside Memory.beside world events last) (hs : Undisturbed events) :
    outcome.isOk = true ↔ Ready client request world := by
  cases h with
  | notAsked => exact nomatch hs _ (List.mem_singleton_self _) rfl
  | dirty =>
    have hclean : false = world.1.clean := hp.plays.1
    exact iff_of_false nofun fun hr => nomatch hclean.trans hr.clean
  | notDownloaded hd =>
    refine iff_of_false nofun fun hr => ?_
    cases hp with
    | cons first hpath =>
    obtain ⟨metadata, uri, patch, hprovides, -⟩ := hr.found
    rw [← first.outside_eq rfl] at hprovides
    exact nomatch hd.eq_ok_of_provides hpath hprovides
  | notResolved hd hr =>
    obtain ⟨hready, hplays⟩ := hd.ready_iff hp
    obtain ⟨middle, hchoice, -⟩ := Memory.Plays.append_iff.mp hplays
    obtain ⟨hs₁, -⟩ := Undisturbed.append_iff.mp (Undisturbed.append_iff.mp hs.tail).2
    have hresolves := hr.isOk_iff hchoice hs₁
    exact iff_of_false nofun fun h => nomatch hresolves.mpr (hready.mp h).1
  | notRecorded hd hr hc =>
    obtain ⟨hready, hplays⟩ := hd.ready_iff hp
    obtain ⟨m₁, hchoice, hrest⟩ := Memory.Plays.append_iff.mp hplays
    obtain ⟨m₂, hrecord, -⟩ := Memory.Plays.append_iff.mp hrest
    obtain rfl := hchoice.eq_of_quiet (.of_isQuery hr.asks)
    obtain ⟨-, hs⟩ := Undisturbed.append_iff.mp (Undisturbed.append_iff.mp hs.tail).2
    have hknows := hc.isOk_iff hrecord (Undisturbed.append_iff.mp hs).1
    exact iff_of_false nofun fun h => nomatch hknows.mpr (hready.mp h).2
  | prepared hd hr hc =>
    obtain ⟨hready, hplays⟩ := hd.ready_iff hp
    obtain ⟨m₁, hchoice, hrecord⟩ := Memory.Plays.append_iff.mp hplays
    obtain rfl := hchoice.eq_of_quiet (.of_isQuery hr.asks)
    obtain ⟨hs₁, hs₂⟩ := Undisturbed.append_iff.mp (Undisturbed.append_iff.mp hs.tail).2
    exact iff_of_true rfl
      (hready.mpr ⟨(hr.isOk_iff hchoice hs₁).mp rfl, (hc.isOk_iff hrecord hs₂).mp rfl⟩)

/-- A fetch succeeds when everything that it needs is there and nothing is refused. -/
theorem Fetching.isOk_iff {outcome : Except Error Fetched} (h : Fetching request outcome events)
    (hp : Event.Path client.beside Memory.beside world events last) :
    outcome.isOk = true ↔ Ready client request world ∧ Undisturbed events := by
  constructor
  · intro hok
    cases outcome with
    | error => exact nomatch hok
    | ok fetched =>
      have hs := h.undisturbed
      cases h with
      | committed hprep hc =>
        obtain ⟨middle, hfront, -⟩ := hp.split
        exact ⟨(hprep.isOk_iff hfront (Undisturbed.append_iff.mp hs).1).mp rfl, hs⟩
  · rintro ⟨hready, hs⟩
    cases h with
    | notPrepared hprep => exact (hprep.isOk_iff hp hs).mpr hready
    | notBranched hprep e =>
      exact nomatch (Undisturbed.append_iff.mp hs).2 _ List.mem_cons_self rfl
    | committed => rfl
    | takenBack hprep hc hu =>
      obtain ⟨front, order, rfl, -⟩ := hc.ends
      obtain ⟨hcommit, -⟩ := Undisturbed.append_iff.mp (Undisturbed.append_iff.mp hs).2.tail
      exact nomatch hcommit _ (List.mem_append_right _ (List.mem_singleton_self _)) rfl

end Ready

end Integration

end Webrev
