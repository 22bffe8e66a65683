import Webrev.Proofs.Http.Retrieval
import Webrev.Proofs.Integration.Course
import Webrev.Proofs.Repository.Replay

/-!
# Nothing is changed before everything is known

A fetch is cut at its first order. Up to there it has found out everything that it needs, in a fixed
sequence, or it ends there with the error of the stage that failed. An application is cut in the
same way at its only order. What the network contributes is looked at in the world in which it was
asked: a table comes from a response that was read to the end of the table, and a patch is the whole
body of a response.

## Main definitions

* `Event.Backed` : what a network says goes with what a call brought back.
* `Integration.asking` : the calls before the first order.
* `Integration.FetchesInOrder`, `Integration.AppliesInOrder` : the stages of a fetch and of an
  application.

## Main results

* `Integration.Fetching.cut`, `Integration.Applying.cut` : courses are cut at their first order.
* `Integration.changes_follow_findings` : every run goes through its stages in order.
-/

namespace Webrev

/-! ### What the network contributes -/

/-- What a network says goes with what a call brought back. -/
def Event.Backed (agent : String) (session : Http.Session) : Event → Prop
  | .header url (.ok table) =>
    ∃ response, session.Obtains agent url response ∧ Http.readHeader response = .ok table
  | .patch url (.ok file) =>
    ∃ response, session.Obtains agent url response ∧ response.isBroken = false ∧
      file.contents = response.bodyChunks.flatten
  | _ => True

theorem Event.Takes.backed {agent : String} {event : Event} {world next : Memory × Http.Session}
    (h : event.Takes (Http.client agent).beside Memory.beside world next) :
    event.Backed agent world.2 := by
  cases event with
  | header url outcome =>
    cases outcome with
    | error => exact True.intro
    | ok table =>
      have hfetch : ((Http.client agent).beside.fetchHeader url).runAt world =
          (.ok table, next) := h
      exact Http.exists_obtains_of_fetchHeader_ok (congrArg Prod.fst hfetch)
  | patch url outcome =>
    cases outcome with
    | error => exact True.intro
    | ok file =>
      have hfetch : ((Http.client agent).beside.fetchPatch url).runAt world =
          (.ok file, next) := h
      exact Http.exists_obtains_of_fetchPatch_ok (congrArg Prod.fst hfetch)
  | release | query | mutation => exact True.intro

/-- Every call of a path is backed in the world that the calls before it leave. -/
theorem Event.Path.backed {agent : String} {world last : Memory × Http.Session}
    {front rest : List Event} {event : Event}
    (h : Event.Path (Http.client agent).beside Memory.beside world (front ++ event :: rest) last) :
    ∃ middle, Event.Path (Http.client agent).beside Memory.beside world front middle ∧
      event.Backed agent middle.2 := by
  obtain ⟨middle, hfront, hrest⟩ := h.split
  cases hrest with
  | cons first _ => exact ⟨middle, hfront, first.backed⟩

namespace Integration

variable {request : Request} {location : String} {events : List Event}

/-! ### Cutting at the first order -/

/-- A fetch ends with the error of its preparation, or its preparation is followed by the order that
makes the branch, and it asks no network after that. -/
theorem Fetching.cut {outcome : Except Error Fetched} (h : Fetching request outcome events) :
    (∃ e, Preparation request (.error e) events ∧ outcome = .error e) ∨
      ∃ findings preparation ordered rest, Preparation request (.ok findings) preparation ∧
        events = preparation ++
          .mutation (.branch findings.target.commit request.branch) ordered :: rest ∧
        ∀ event ∈ rest, event.isRequest = false := by
  cases h with
  | notPrepared hp => exact .inl ⟨_, hp, rfl⟩
  | notBranched hp e =>
    exact .inr ⟨_, _, _, _, hp, rfl, List.forall_mem_singleton.mpr rfl⟩
  | committed hp hc =>
    exact .inr ⟨_, _, _, _, hp, rfl, List.forall_mem_append.mpr
      ⟨fun event he => Event.isRequest_eq_false_of_isMutation (hc.orders event he),
        List.forall_mem_singleton.mpr rfl⟩⟩
  | takenBack hp hc hu =>
    exact .inr ⟨_, _, _, _, hp, rfl, List.forall_mem_append.mpr
      ⟨fun event he => Event.isRequest_eq_false_of_isMutation (hc.orders event he),
        List.forall_mem_append.mpr
          ⟨fun event he => Event.isRequest_eq_false_of_isMutation (hu.orders event he),
            List.forall_mem_singleton.mpr rfl⟩⟩⟩

/-- An application ends with the error of its download, or its download is followed by the only
order, and after that the patch is released. -/
theorem Applying.cut {outcome : Except Error Applied} (h : Applying location outcome events) :
    (∃ e, Download location (.error e) events ∧ outcome = .error e) ∨
      ∃ metadata uri patch download ordered,
        Download location (.ok (metadata, uri, patch)) download ∧
        events = download ++ .mutation (.apply patch false) ordered :: [.release patch] := by
  cases h with
  | notDownloaded hd => exact .inl ⟨_, hd, rfl⟩
  | notApplied hd e => exact .inr ⟨_, _, _, _, _, hd, rfl⟩
  | applied hd => exact .inr ⟨_, _, _, _, _, hd, rfl⟩

/-- The calls before the first order. -/
def asking (events : List Event) : List Event := events.takeWhile (!·.isMutation)

theorem asking_append_mutation {front rest : List Event} {order : Mutation}
    {ordered : Except RepositoryError order.Answer} (hf : Event.Quiet front) :
    asking (front ++ .mutation order ordered :: rest) = front := by
  rw [asking, List.takeWhile_append_of_pos fun event he => by rw [hf event he, Bool.not_false]]
  exact List.append_nil front

/-! ### Requests -/

/-- A patch is asked for only when the location is a good one and its page links to the patch. -/
def Linked (location : String) (events : List Event) (uri : Url) : Prop :=
  ∃ source table metadata, Location.sanitize location = .ok source ∧
    .header source (.ok table) ∈ events ∧ Metadata.ofHeader table source = .ok metadata ∧
    metadata.patchUri = some uri

theorem Linked.mono {uri : Url} {events' : List Event} (h : Linked location events uri)
    (hs : events ⊆ events') : Linked location events' uri := by
  obtain ⟨source, table, metadata, hsource, hpage, hm, hl⟩ := h
  exact ⟨source, table, metadata, hsource, hs hpage, hm, hl⟩

theorem Reading.patch_notMem {uri : Url} {got : Except AccessError PatchFile}
    {outcome : Except AccessError Metadata} (h : Reading location outcome events) :
    .patch uri got ∉ events := by
  cases h <;> simp

theorem Reading.linked {metadata : Metadata} {uri : Url}
    (h : Reading location (.ok metadata) events) (hl : metadata.patchUri = some uri) :
    Linked location events uri := by
  cases h with
  | page hs hm => exact ⟨_, _, metadata, hs, List.mem_singleton_self _, hm, hl⟩

theorem Download.linked {uri : Url} {got : Except AccessError PatchFile}
    {outcome : Except Error (Metadata × Url × PatchFile)} (h : Download location outcome events)
    (hp : .patch uri got ∈ events) : Linked location events uri := by
  cases h with
  | notRead h | noLink h => exact absurd hp h.patch_notMem
  | noPatch h hl | downloaded h hl =>
    rcases List.mem_append.mp hp with hp | hp
    · exact absurd hp h.patch_notMem
    · cases List.mem_singleton.mp hp
      exact (h.linked hl).mono (List.subset_append_left _ _)

/-- A patch is asked for in the download, when nothing after it asks a network. -/
theorem Download.linked_of_mem_append {uri : Url} {got : Except AccessError PatchFile}
    {outcome : Except Error (Metadata × Url × PatchFile)} {rest : List Event}
    (h : Download location outcome events) (hr : ∀ event ∈ rest, event.isRequest = false)
    (hp : .patch uri got ∈ events ++ rest) : Linked location (events ++ rest) uri := by
  rcases List.mem_append.mp hp with hp | hp
  · exact (h.linked hp).mono (List.subset_append_left _ _)
  · exact nomatch hr _ hp

/-- A preparation asks a network in its download and nowhere else. -/
theorem Preparation.download_cases {outcome : Except Error Findings}
    (h : Preparation request outcome events) :
    (∀ event ∈ events, event.isRequest = false) ∨
      ∃ result download rest, Download request.location result download ∧
        events = .query .isClean (.ok true) :: (download ++ rest) ∧
        ∀ event ∈ rest, event.isRequest = false := by
  have hquery {asked : List Event} (ha : ∀ event ∈ asked, event.isQuery) :
      ∀ event ∈ asked, event.isRequest = false := fun event he =>
    Event.isRequest_eq_false_of_isQuery (ha event he)
  have hrelease (file : PatchFile) : ∀ event ∈ [Event.release file], event.isRequest = false :=
    List.forall_mem_singleton.mpr rfl
  cases h with
  | notAsked | dirty => exact .inl (List.forall_mem_singleton.mpr rfl)
  | notDownloaded hd =>
    exact .inr ⟨_, _, [], hd, by rw [List.append_nil], List.forall_mem_nil _⟩
  | notResolved hd hr =>
    exact .inr ⟨_, _, _, hd, rfl, List.forall_mem_append.mpr ⟨hquery hr.asks, hrelease _⟩⟩
  | notRecorded hd hr hc =>
    exact .inr ⟨_, _, _, hd, rfl, List.forall_mem_append.mpr ⟨hquery hr.asks,
      List.forall_mem_append.mpr ⟨hquery hc.asks, hrelease _⟩⟩⟩
  | prepared hd hr hc =>
    exact .inr ⟨_, _, _, hd, rfl, List.forall_mem_append.mpr ⟨hquery hr.asks, hquery hc.asks⟩⟩

theorem Preparation.linked {uri : Url} {got : Except AccessError PatchFile}
    {outcome : Except Error Findings} (h : Preparation request outcome events)
    (hp : .patch uri got ∈ events) : Linked request.location events uri := by
  rcases h.download_cases with hnone | ⟨result, download, rest, hd, rfl, hrest⟩
  · exact nomatch hnone _ hp
  · obtain hp | hp := List.mem_cons.mp hp
    · exact nomatch hp
    · exact (hd.linked_of_mem_append hrest hp).mono (List.subset_cons_self _ _)

/-- The first question of a preparation is whether the working copy is clean; it is the only call
unless the answer is yes. -/
theorem Preparation.asks_first {outcome : Except Error Findings}
    (h : Preparation request outcome events) :
    ∃ answer rest, events = .query .isClean answer :: rest ∧
      (answer ≠ .ok true → rest = [] ∧ ∃ e, outcome = .error e) := by
  cases h with
  | notAsked e => exact ⟨_, _, rfl, fun _ => ⟨rfl, _, rfl⟩⟩
  | dirty => exact ⟨_, _, rfl, fun _ => ⟨rfl, _, rfl⟩⟩
  | notDownloaded | notResolved | notRecorded | prepared =>
    exact ⟨_, _, rfl, fun h => absurd rfl h⟩

/-! ### The stages in order -/

/-- A fetch goes through its stages in order, and through all of them before its first order. -/
structure FetchesInOrder (agent : String) (request : Request) (world : Memory × Http.Session)
    (outcome : Except Error Fetched) (last : Memory × Http.Session) (events : List Event) :
    Prop where
  /-- What was retrieved was there when it was asked for. -/
  retrieved : ∀ front event rest, events = front ++ event :: rest → ∃ middle,
    Event.Path (Http.client agent).beside Memory.beside world front middle ∧
      event.Backed agent middle.2
  /-- Before the first order everything is known. -/
  known : (∃ event ∈ events, event.isMutation) →
    ∃ findings, Preparation request (.ok findings) (asking events)
  /-- Without an order the fetch has failed in its preparation, and nothing is changed. -/
  failed : Event.Quiet events → ∃ e, Preparation request (.error e) events ∧ outcome = .error e ∧
    last.1.branches = world.1.branches ∧ last.1.current = world.1.current
  /-- Unless the working copy is clean nothing else is asked, and no network. -/
  clean : ∃ answer rest, events = .query .isClean answer :: rest ∧
    (answer ≠ .ok true → rest = [] ∧ last.2 = world.2)
  /-- A patch is asked for only behind a link. -/
  linked : ∀ uri got, .patch uri got ∈ events → Linked request.location events uri

/-- An application goes through its stages in order, and gives one order. -/
structure AppliesInOrder (agent : String) (location : String) (world : Memory × Http.Session)
    (outcome : Except Error Applied) (last : Memory × Http.Session) (events : List Event) :
    Prop where
  /-- What was retrieved was there when it was asked for. -/
  retrieved : ∀ front event rest, events = front ++ event :: rest → ∃ middle,
    Event.Path (Http.client agent).beside Memory.beside world front middle ∧
      event.Backed agent middle.2
  /-- The only order is to apply the whole of the downloaded patch. -/
  known : ∀ before order ordered after, events = before ++ .mutation order ordered :: after →
    ∃ metadata uri patch, Download location (.ok (metadata, uri, patch)) before ∧
      order = .apply patch false ∧ Event.Quiet before ∧ Event.Quiet after
  /-- Without an order the download has failed, and nothing is changed. -/
  failed : Event.Quiet events → ∃ e, Download location (.error e) events ∧ outcome = .error e ∧
    last.1.branches = world.1.branches ∧ last.1.current = world.1.current
  /-- A patch is asked for only behind a link. -/
  linked : ∀ uri got, .patch uri got ∈ events → Linked location events uri

section Runs

variable {agent : String} {world last : Memory × Http.Session}

/-- Without an order the branches and what is checked out stay as they are. -/
theorem unchanged_of_quiet
    (h : Event.Path (Http.client agent).beside Memory.beside world events last)
    (hq : Event.Quiet events) :
    last.1.branches = world.1.branches ∧ last.1.current = world.1.current := by
  have hsame : last.1.knowledge = world.1.knowledge := h.plays.eq_of_quiet hq
  rw [← Memory.knowledge_branches, hsame, ← Memory.knowledge_current, hsame]
  exact ⟨rfl, rfl⟩

theorem Fetching.inOrder {outcome : Except Error Fetched} (h : Fetching request outcome events)
    (hp : Event.Path (Http.client agent).beside Memory.beside world events last) :
    FetchesInOrder agent request world outcome last events where
  retrieved := by
    rintro front event rest rfl
    exact hp.backed
  known := by
    rintro ⟨event, hevent, hm⟩
    rcases h.cut with ⟨e, hprep, -⟩ | ⟨findings, preparation, ordered, rest, hprep, rfl, -⟩
    · exact nomatch hm.symm.trans (hprep.quiet event hevent)
    · rw [asking_append_mutation hprep.quiet]
      exact ⟨findings, hprep⟩
  failed := by
    intro hq
    -- The order that makes the branch is the only way on from a preparation that succeeds.
    rcases h.cut with ⟨e, hprep, ho⟩ | ⟨findings, preparation, ordered, rest, -, rfl, -⟩
    · exact ⟨e, hprep, ho, unchanged_of_quiet hp hq⟩
    · exact nomatch hq _ (List.mem_append_right _ List.mem_cons_self)
  clean := by
    rcases h.cut with ⟨e, hprep, -⟩ | ⟨findings, preparation, ordered, rest, hprep, rfl, -⟩
    · obtain ⟨answer, rest, rfl, hrest⟩ := hprep.asks_first
      refine ⟨answer, rest, rfl, fun ha => ⟨(hrest ha).1, hp.outside_eq ?_⟩⟩
      rw [(hrest ha).1]
      exact List.forall_mem_singleton.mpr rfl
    · obtain ⟨answer, asked, rfl, hrest⟩ := hprep.asks_first
      refine ⟨answer, _, rfl, fun ha => ?_⟩
      obtain ⟨-, e, he⟩ := hrest ha
      exact nomatch he
  linked := by
    intro uri got hm
    rcases h.cut with ⟨e, hprep, -⟩ | ⟨findings, preparation, ordered, rest, hprep, rfl, hrest⟩
    · exact hprep.linked hm
    · rcases List.mem_append.mp hm with hm | hm
      · exact (hprep.linked hm).mono (List.subset_append_left _ _)
      · obtain hm | hm := List.mem_cons.mp hm
        · exact nomatch hm
        · exact nomatch hrest _ hm

theorem Applying.inOrder {outcome : Except Error Applied} (h : Applying location outcome events)
    (hp : Event.Path (Http.client agent).beside Memory.beside world events last) :
    AppliesInOrder agent location world outcome last events where
  retrieved := by
    rintro front event rest rfl
    exact hp.backed
  known := by
    intro before order ordered after hsplit
    rcases h.cut with ⟨e, hd, -⟩ | ⟨metadata, uri, patch, download, ordered', hd, rfl⟩
    · rw [hsplit] at hd
      exact nomatch hd.quiet _ (List.mem_append_right _ List.mem_cons_self)
    · have hrelease : Event.Quiet [.release patch] := .cons rfl .nil
      obtain ⟨rfl, ⟨⟩, rfl⟩ := hd.quiet.split_eq hrelease rfl hsplit
      exact ⟨metadata, uri, patch, hd, rfl, hd.quiet, hrelease⟩
  failed := by
    intro hq
    rcases h.cut with ⟨e, hd, ho⟩ | ⟨metadata, uri, patch, download, ordered, -, rfl⟩
    · exact ⟨e, hd, ho, unchanged_of_quiet hp hq⟩
    · exact nomatch hq _ (List.mem_append_right _ List.mem_cons_self)
  linked := by
    intro uri got hm
    rcases h.cut with ⟨e, hd, -⟩ | ⟨metadata, uri', patch, download, ordered, hd, rfl⟩
    · exact hd.linked hm
    · refine hd.linked_of_mem_append ?_ hm
      exact List.forall_mem_cons.mpr ⟨rfl, List.forall_mem_singleton.mpr rfl⟩

/-- **Nothing is changed before everything is known.** Every fetch and every application goes
through its stages in order, whatever the network answers and whichever calls to the repository
fail. -/
theorem changes_follow_findings (agent : String) (world : Memory × Http.Session) :
    (∀ request, FetchesInOrder agent request world
      ((fetch (Http.client agent).beside Memory.beside request).runAt world).1
      ((fetch (Http.client agent).beside Memory.beside request).runAt world).2
      (fetchEvents (Http.client agent).beside Memory.beside request world)) ∧
    ∀ location, AppliesInOrder agent location world
      ((apply (Http.client agent).beside Memory.beside location).runAt world).1
      ((apply (Http.client agent).beside Memory.beside location).runAt world).2
      (applyEvents (Http.client agent).beside Memory.beside location world) := by
  refine ⟨fun request => ?_, fun location => ?_⟩
  · obtain ⟨hpath, hcourse⟩ := fetch_course (Http.client agent).beside Memory.beside request world
    exact hcourse.inOrder hpath
  · obtain ⟨hpath, hcourse⟩ := apply_course (Http.client agent).beside Memory.beside location world
    exact hcourse.inOrder hpath

end Runs

end Integration

end Webrev
