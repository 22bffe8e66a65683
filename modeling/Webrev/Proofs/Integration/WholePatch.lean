import Webrev.Proofs.Integration.Preparation
import Webrev.Proofs.Journal.Beside
import Webrev.Proofs.Text.Scan
import Webrev.Repository.Memory

/-!
# A patch is applied whole or not at all

In an application and in a fetch alike, a patch is asked for once, after nothing but looking. Either
that fails, ends the run, and leaves no file, however much of the patch was written; or the patch
lies whole in a fresh file, is used, and is released at the very end. No call in between is one to
the client, so the file stays as it is until then.

## Main definitions

* `Integration.Uses` : calls that use a patch.
* `Integration.Patching` : what becomes of the patch in a run.
* `Integration.PatchedWhole` : a patch is applied whole or not at all, and leaves no file.

## Main results

* `Integration.Applying.patching`, `Integration.Fetching.patching` : every course is one of these.
* `Integration.Patching.whole` : what holds of a run by what becomes of its patch.
* `Integration.patch_applied_whole` : every application and every fetch.
-/

namespace Webrev.Integration

variable {location : String} {request : Request} {events : List Event} {patch : PatchFile}

/-! ### What becomes of the patch -/

/-- The calls handle no file by themselves, and what they apply is the patch. -/
def Uses (patch : PatchFile) (events : List Event) : Prop :=
  ∀ event ∈ events, event.actsOutside = false ∧
    ∀ file isPartial, event.order? = some (.apply file isPartial) → file = patch

/-- What becomes of the patch in a run: it is not asked for, or it is not there, or it is used and
then released. -/
inductive Patching {α : Type} (location : String) : Except Error α → List Event → Prop
  | unasked {outcome : Except Error α} {events : List Event}
      (hlooks : ∀ event ∈ events, event.looks = true) : Patching location outcome events
  | refused {uri : Url} {front : List Event} (hlooks : ∀ event ∈ front, event.looks = true)
      (hlinked : Linked location front uri) (e : AccessError) :
      Patching location (.error (.access e)) (front ++ [.patch uri (.error e)])
  | used {uri : Url} {outcome : Except Error α} {front inner : List Event}
      (hlooks : ∀ event ∈ front, event.looks = true) (hlinked : Linked location front uri)
      (patch : PatchFile) (huses : Uses patch inner) :
      Patching location outcome (front ++ .patch uri (.ok patch) :: (inner ++ [.release patch]))

theorem Uses.append {front rest : List Event} (hf : Uses patch front) (hr : Uses patch rest) :
    Uses patch (front ++ rest) :=
  List.forall_mem_append.mpr ⟨hf, hr⟩

theorem Uses.cons {order : Mutation} {ordered : Except RepositoryError order.Answer}
    {rest : List Event} (h : ∀ file isPartial, order = .apply file isPartial → file = patch)
    (hr : Uses patch rest) : Uses patch (.mutation order ordered :: rest) :=
  List.forall_mem_cons.mpr
    ⟨⟨rfl, fun file isPartial ho => h file isPartial (Option.some.inj ho)⟩, hr⟩

theorem Uses.nil : Uses patch [] := List.forall_mem_nil _

theorem uses_of_isQuery (h : ∀ event ∈ events, event.isQuery) : Uses patch events := by
  intro event he
  cases event with
  | query => exact ⟨rfl, fun _ _ ho => nomatch ho⟩
  | header | patch | release | mutation => exact nomatch h _ he

theorem Committing.uses {branch : Branch} {message author : String}
    {outcome : Except RepositoryError CommitHash}
    (h : Committing branch patch message author outcome events) : Uses patch events := by
  cases h with
  | notCheckedOut => exact .cons nofun .nil
  | notApplied => exact .cons nofun (.cons (by rintro _ _ ⟨⟩; rfl) .nil)
  | committed => exact .cons nofun (.cons (by rintro _ _ ⟨⟩; rfl) (.cons (by nofun) .nil))

theorem TakingBack.uses {previous : Previous} {branch : Branch}
    {outcome : Except RepositoryError Unit} (h : TakingBack previous branch outcome events) :
    Uses patch events := by
  cases h <;> cases previous <;> repeat first | exact .nil | refine .cons nofun ?_

theorem Reading.looks {outcome : Except AccessError Metadata}
    (h : Reading location outcome events) : ∀ event ∈ events, event.looks = true := by
  cases h with
  | malformed => exact List.forall_mem_nil _
  | noPage | page => exact List.forall_mem_singleton.mpr rfl

section Downloads

variable {α : Type} {front download : List Event}

/-- A download that fails after nothing but looking. -/
theorem Download.patching_of_error {e : Error} (h : Download location (.error e) download)
    (hfront : ∀ event ∈ front, event.looks = true) :
    Patching (α := α) location (.error e) (front ++ download) := by
  cases h with
  | notRead h | noLink h => exact .unasked (List.forall_mem_append.mpr ⟨hfront, h.looks⟩)
  | noPatch h hl =>
    rw [← List.append_assoc]
    exact .refused (List.forall_mem_append.mpr ⟨hfront, h.looks⟩)
      ((h.linked hl).mono (List.subset_append_right _ _)) _

/-- A download after nothing but looking, and then the use of the patch. -/
theorem Download.patching_of_ok {metadata : Metadata} {uri : Url} {inner : List Event}
    (h : Download location (.ok (metadata, uri, patch)) download)
    (hfront : ∀ event ∈ front, event.looks = true) (hinner : Uses patch inner)
    (outcome : Except Error α) :
    Patching location outcome (front ++ (download ++ (inner ++ [.release patch]))) := by
  cases h with
  | downloaded h hl =>
    rw [List.append_assoc, List.singleton_append, ← List.append_assoc]
    exact .used (List.forall_mem_append.mpr ⟨hfront, h.looks⟩)
      ((h.linked hl).mono (List.subset_append_right _ _)) patch hinner

end Downloads

/-- What becomes of the patch in an application. -/
theorem Applying.patching {outcome : Except Error Applied} (h : Applying location outcome events) :
    Patching location outcome events := by
  have hfront := List.forall_mem_nil (α := Event) (fun event => event.looks = true)
  cases h with
  | notDownloaded hd => exact hd.patching_of_error hfront
  | notApplied hd | applied hd =>
    exact hd.patching_of_ok hfront (.cons (by rintro _ _ ⟨⟩; rfl) .nil) _

/-- A preparation for a fetch, and then the use of the patch. -/
theorem Preparation.patching_of_ok {α : Type} {findings : Findings} {preparation inner : List Event}
    (h : Preparation request (.ok findings) preparation) (hinner : Uses findings.patch inner)
    (outcome : Except Error α) :
    Patching request.location outcome (preparation ++ (inner ++ [.release findings.patch])) := by
  cases h with
  | prepared hd hr hc =>
    have huses := (uses_of_isQuery hr.asks).append ((uses_of_isQuery hc.asks).append hinner)
    have hfront : ∀ event ∈ [Event.query .isClean (.ok true)], event.looks = true :=
      List.forall_mem_singleton.mpr rfl
    simpa using hd.patching_of_ok hfront huses outcome

/-- What becomes of the patch in a fetch. -/
theorem Fetching.patching {outcome : Except Error Fetched} (h : Fetching request outcome events) :
    Patching request.location outcome events := by
  cases h with
  | notPrepared hp =>
    have hfront (answer : Except RepositoryError Bool) :
        ∀ event ∈ [Event.query .isClean answer], event.looks = true :=
      List.forall_mem_singleton.mpr rfl
    cases hp with
    | notAsked | dirty => exact .unasked (hfront _)
    | notDownloaded hd => exact hd.patching_of_error (hfront _)
    | notResolved hd hr => exact hd.patching_of_ok (hfront _) (uses_of_isQuery hr.asks) _
    | @notRecorded _ _ _ _ _ _ resolution _ hd hr hc =>
      rw [← List.append_assoc resolution]
      exact hd.patching_of_ok (hfront _)
        ((uses_of_isQuery hr.asks).append (uses_of_isQuery hc.asks)) _
  | notBranched hp => exact hp.patching_of_ok (.cons (by nofun) .nil) _
  | committed hp hc => exact hp.patching_of_ok (.cons (by nofun) hc.uses) _
  | takenBack hp hc hu =>
    rw [← List.append_assoc, ← List.cons_append]
    exact hp.patching_of_ok (.cons (by nofun) (hc.uses.append hu.uses)) _

/-! ### Runs -/

section Runs

variable {ρ α : Type} {agent : String} {repository : Repository ρ} {world last : ρ × Http.Session}
  {outcome : Except Error α}

/-- Before the rest of a run the patch at a URL was asked for behind a link. A successful response
came, its connection did not break, and the file holds its whole body. -/
def Brought (agent : String) (repository : Repository ρ) (location : String)
    (world : ρ × Http.Session) (before : List Event) (file : PatchFile) : Prop :=
  ∃ front rest uri asked response, before = front ++ .patch uri (.ok file) :: rest ∧
    Linked location front uri ∧
    Event.Path (Http.client agent).second repository.first world front asked ∧
    asked.2.Obtains agent uri response ∧ response.isBroken = false ∧
    file.contents = response.bodyChunks.flatten

/-- A patch is applied whole or not at all, and leaves no file. -/
structure PatchedWhole (agent : String) (repository : Repository ρ) (location : String)
    (world : ρ × Http.Session) (outcome : Except Error α) (last : ρ × Http.Session)
    (events : List Event) : Prop where
  /-- What is applied is a file that is there, with the whole body of a response. -/
  whole : ∀ before file isPartial ordered after,
    events = before ++ .mutation (.apply file isPartial) ordered :: after →
    Brought agent repository location world before file ∧
      ∃ middle, Event.Path (Http.client agent).second repository.first world before middle ∧
        file ∈ middle.2.spool.files
  /-- A patch that is asked for is had when it comes whole, in whichever chunks, and can be stored.
  When it does not come whole or cannot be stored, this ends the run, which tells so, and the
  repository is given no order. -/
  asked : ∀ before uri got after, events = before ++ .patch uri got :: after →
    ∃ middle, Event.Path (Http.client agent).second repository.first world before middle ∧
      Linked location before uri ∧
      (∀ response, middle.2.Obtains agent uri response → response.isBroken = false →
        middle.2.spool.Stores response.bodyChunks →
        ∃ file, got = .ok file ∧ file.contents = response.bodyChunks.flatten) ∧
      (middle.2.Withholds agent uri →
        (∃ fault, outcome = .error (.access (.retrieval uri.text fault))) ∧ after = [] ∧
          Event.Quiet events)
  /-- In the end the files are those from before. -/
  released : last.2.spool.files = world.2.spool.files

theorem quiet_of_looks (h : ∀ event ∈ events, event.looks = true) : Event.Quiet events := by
  intro event he
  cases event with
  | mutation => exact nomatch h _ he
  | header | patch | release | query => rfl

theorem patch_notMem_of_looks {uri : Url} {got : Except AccessError PatchFile}
    (h : ∀ event ∈ events, event.looks = true) : .patch uri got ∉ events :=
  fun hm => nomatch h _ hm

theorem Uses.patch_notMem {uri : Url} {got : Except AccessError PatchFile}
    (h : Uses patch events) : .patch uri got ∉ events :=
  fun hm => nomatch (h _ hm).1

/-- A run that only looks. -/
theorem whole_of_looks (hlooks : ∀ event ∈ events, event.looks = true)
    (hp : Event.Path (Http.client agent).second repository.first world events last) :
    PatchedWhole agent repository location world outcome last events where
  whole := by
    rintro before file isPartial ordered after rfl
    exact nomatch hlooks _ (List.mem_append_right _ List.mem_cons_self)
  asked := by
    rintro before uri got after rfl
    exact nomatch hlooks _ (List.mem_append_right _ List.mem_cons_self)
  released := by rw [hp.spool_eq hlooks]

/-- A run that ends with a patch that is not there. -/
theorem whole_of_refused {uri : Url} {front : List Event} {e : AccessError}
    (hlooks : ∀ event ∈ front, event.looks = true) (hlinked : Linked location front uri)
    (hp : Event.Path (Http.client agent).second repository.first world
      (front ++ [.patch uri (.error e)]) last) :
    PatchedWhole agent repository location world (.error (.access e) : Except Error α) last
      (front ++ [.patch uri (.error e)]) := by
  obtain ⟨asked, hfront, _ | ⟨first, ⟨⟩⟩⟩ := hp.split
  obtain ⟨_, _, -, -, -, hgot, -⟩ | ⟨fault, hgot, hfiles, hwithheld⟩ := first.patch_cases
  · exact nomatch hgot
  cases hgot
  have hquiet : Event.Quiet (front ++ [.patch uri (.error (.retrieval uri.text fault))]) :=
    (quiet_of_looks hlooks).append (.cons rfl .nil)
  constructor
  case whole =>
    intro before file isPartial ordered after hsplit
    rw [hsplit] at hquiet
    exact nomatch hquiet _ (List.mem_append_right _ List.mem_cons_self)
  case asked =>
    intro before uri' got after hsplit
    obtain ⟨rfl, hpatch, rfl⟩ := (List.append_cons_inj_of_notMem (patch_notMem_of_looks hlooks)
      List.not_mem_nil).mp hsplit
    cases hpatch
    refine ⟨asked, hfront, hlinked, fun response hobtains hb hstores => ?_,
      fun _ => ⟨⟨fault, rfl⟩, rfl, hquiet⟩⟩
    rcases hwithheld response hobtains with hbroken | hfull
    · exact nomatch hb.symm.trans hbroken
    · exact absurd hstores hfull
  case released => rw [hfiles, hfront.spool_eq hlooks]

/-- Where a call applies a file in a run that uses a patch: among the calls that use it, and the
file is the patch. -/
theorem Uses.exists_of_split {uri : Url} {front inner before after : List Event} {file : PatchFile}
    {isPartial : Bool} {ordered : Except RepositoryError Unit}
    (hlooks : ∀ event ∈ front, event.looks = true) (huses : Uses patch inner)
    (h : front ++ .patch uri (.ok patch) :: (inner ++ [.release patch]) =
      before ++ .mutation (.apply file isPartial) ordered :: after) :
    file = patch ∧ ∃ early late, before = front ++ .patch uri (.ok patch) :: early ∧
      inner = early ++ .mutation (.apply file isPartial) ordered :: late := by
  have hfront : .mutation (.apply file isPartial) ordered ∉ front ++ [.patch uri (.ok patch)] := by
    intro hm
    rcases List.mem_append.mp hm with hm | hm
    · exact nomatch hlooks _ hm
    · exact nomatch List.mem_singleton.mp hm
  rw [← List.singleton_append, ← List.append_assoc] at h
  obtain ⟨early, rfl, hinner⟩ := Scan.exists_of_append_eq_append_cons hfront h
  -- The call is none of those that are left when the patch is released.
  rcases List.append_eq_append_iff.mp hinner with ⟨more, hearly, hmore⟩ | ⟨more, hearly, hmore⟩
  · have hm : .mutation (.apply file isPartial) ordered ∈ [Event.release patch] :=
      hmore ▸ List.mem_append_right _ List.mem_cons_self
    exact nomatch List.mem_singleton.mp hm
  · cases more with
    | nil => exact nomatch (List.cons.inj hmore).1
    | cons event late =>
      obtain ⟨rfl, -⟩ := List.cons.inj hmore
      refine ⟨?_, early, late, List.append_cons _ _ _ |>.symm, hearly⟩
      exact (huses _ (hearly ▸ List.mem_append_right _ List.mem_cons_self)).2 file isPartial rfl

/-- A run that uses a patch and releases it. -/
theorem whole_of_used {uri : Url} {front inner : List Event}
    (hlooks : ∀ event ∈ front, event.looks = true) (hlinked : Linked location front uri)
    (huses : Uses patch inner)
    (hp : Event.Path (Http.client agent).second repository.first world
      (front ++ .patch uri (.ok patch) :: (inner ++ [.release patch])) last) :
    PatchedWhole agent repository location world outcome last
      (front ++ .patch uri (.ok patch) :: (inner ++ [.release patch])) := by
  obtain ⟨asked, hfront, _ | ⟨first, hrest⟩⟩ := hp.split
  next had =>
  obtain ⟨used, hinner, _ | ⟨hrelease, ⟨⟩⟩⟩ := hrest.split
  obtain ⟨response, file, hobtains, hb, hstores, hgot, hcontents, hadds⟩ | ⟨_, hgot, -⟩ :=
    first.patch_cases
  swap
  · exact nomatch hgot
  cases hgot
  rw [hfront.spool_eq hlooks] at hadds
  constructor
  case whole =>
    intro before file isPartial ordered after hsplit
    obtain ⟨rfl, early, late, rfl, rfl⟩ := Uses.exists_of_split hlooks huses hsplit
    obtain ⟨middle, hearly, -⟩ := hinner.split
    refine ⟨⟨front, early, uri, asked, response, rfl, hlinked, hfront, hobtains, hb, hcontents⟩,
      middle, hfront.append (.cons first hearly), ?_⟩
    rw [hearly.second_eq fun event he => (huses event (List.mem_append_left _ he)).1, hadds.files]
    exact List.mem_append_right _ (List.mem_singleton_self _)
  case asked =>
    intro before uri' got after hsplit
    obtain ⟨rfl, hpatch, rfl⟩ := (List.append_cons_inj_of_notMem (patch_notMem_of_looks hlooks)
      (by simp [huses.patch_notMem])).mp hsplit
    cases hpatch
    refine ⟨asked, hfront, hlinked, fun other hother _ _ => ⟨patch, rfl, ?_⟩, fun hwithheld => ?_⟩
    · rw [hcontents, Option.some.inj (hobtains.1.symm.trans hother.1)]
    · rcases hwithheld response hobtains with hbroken | hfull
      · exact nomatch hb.symm.trans hbroken
      · exact absurd hstores hfull
  case released =>
    rw [hrelease.spool_release, hinner.second_eq fun event he => (huses event he).1]
    exact hadds.files_remove

/-- What becomes of the patch decides what holds of the run. -/
theorem Patching.whole (h : Patching location outcome events)
    (hp : Event.Path (Http.client agent).second repository.first world events last) :
    PatchedWhole agent repository location world outcome last events := by
  cases h with
  | unasked hlooks => exact whole_of_looks hlooks hp
  | refused hlooks hlinked => exact whole_of_refused hlooks hlinked hp
  | used hlooks hlinked _ huses => exact whole_of_used hlooks hlinked huses hp

/-- **A patch is applied whole or not at all.** In every application and in every fetch, whatever
the network answers and whatever the repository does, a file that is applied is there when it is
applied and holds the whole body of one successful response to a request for the patch that the page
links to, in whichever chunks it came. When no such response comes, or its connection breaks, or the
body cannot be stored, the run fails with the retrieval of the patch and tells the repository to do
nothing. In the end the files are those from before, whatever was written in between. -/
theorem patch_applied_whole (agent : String) (repository : Repository ρ)
    (world : ρ × Http.Session) :
    (∀ location, PatchedWhole agent repository location world
      ((apply (Http.client agent).second repository.first location).runAt world).1
      ((apply (Http.client agent).second repository.first location).runAt world).2
      (applyEvents (Http.client agent).second repository.first location world)) ∧
    ∀ request, PatchedWhole agent repository request.location world
      ((fetch (Http.client agent).second repository.first request).runAt world).1
      ((fetch (Http.client agent).second repository.first request).runAt world).2
      (fetchEvents (Http.client agent).second repository.first request world) := by
  refine ⟨fun location => ?_, fun request => ?_⟩
  · obtain ⟨hpath, hcourse⟩ :=
      apply_course (Http.client agent).second repository.first location world
    exact hcourse.patching.whole hpath
  · obtain ⟨hpath, hcourse⟩ :=
      fetch_course (Http.client agent).second repository.first request world
    exact hcourse.patching.whole hpath

/-! ### A patch in three chunks -/

/-- A page whose table says where the patch is. -/
def patchedPage : List UInt8 :=
  Utf8.encode ("<table>\n<tr><th>Patch of changes:</th><td><a href=\"w.patch\">w.patch</a></td>" ++
    "</tr>\n</table>\n").toList

/-- A repository beside a network with the page and a patch in three chunks, and with files on a
device that gives the replies. -/
def chunkedWorld (replies : List Spool.Reply) : Memory × Http.Session :=
  (⟨[], [], none, [], true, [], none, ⟨"c2"⟩, fun _ _ => none, []⟩,
    ⟨⟨true, [⟨⟨200⟩, [patchedPage], none, false⟩,
      ⟨⟨200⟩, [[0x2B], [], [0x61, 0x0A]], none, false⟩], []⟩, ⟨"/tmp", true, [], 0, replies⟩, []⟩)

/-- The patch is applied with all its chunks. When the device fails in the midst of the last one, it
is not applied. -/
theorem patch_applied_whole_of_chunks :
    ((apply (Http.client "agent").second Memory.repository.first "https://h/w/").runAt
        (chunkedWorld [])).2.1.calls =
        [.mutation (.apply ⟨"/tmp/patch000000.patch", [0x2B, 0x61, 0x0A]⟩ false)] ∧
      ((apply (Http.client "agent").second Memory.repository.first "https://h/w/").runAt
        (chunkedWorld [])).2.2.spool.files = [] ∧
      ((apply (Http.client "agent").second Memory.repository.first "https://h/w/").runAt
        (chunkedWorld [.done, .failed 1])).1 =
        .error (.access (.retrieval "https://h/w/w.patch" .storage)) ∧
      ((apply (Http.client "agent").second Memory.repository.first "https://h/w/").runAt
        (chunkedWorld [.done, .failed 1])).2.1.calls = [] ∧
      ((apply (Http.client "agent").second Memory.repository.first "https://h/w/").runAt
        (chunkedWorld [.done, .failed 1])).2.2.spool.files = [] := by
  have hreleased (replies : List Spool.Reply) :=
    ((patch_applied_whole "agent" Memory.repository (chunkedWorld replies)).1
      "https://h/w/").released
  exact ⟨by decide +kernel, hreleased [], by decide +kernel, by decide +kernel, hreleased _⟩

end Runs

end Webrev.Integration
