import Webrev.Proofs.Integration.Evidence
import Webrev.Proofs.Integration.Ready
import Webrev.Proofs.Metadata.Author
import Webrev.Repository.Git

/-!
# Fetches that succeed

What a fetch has done when it succeeds, and what stands in its way when it does not. The calls of a
fetch that succeeds are all of one kind: three findings, the choice of a commit, the record of what
is checked out, and four orders, of which the last is given in the name of whoever prepared the
change. A fetch that fails has met with one of a few hindrances among its calls.

## Main definitions

* `Repository.NamesBranches` : a branch is called what it was asked to be called.
* `Integration.Fetched.orders`, `Integration.Accomplished` : the orders and all the calls of a fetch
  that succeeds.
* `Integration.Hindrance` : what makes a fetch fail.

## Main results

* `Memory.namesBranches`, `Git.namesBranches` : branches are called what they were asked to be
  called.
* `Integration.Fetching.accomplished` : the calls of a fetch that succeeds.
* `Integration.Fetching.created` : what it leaves in a repository in memory.
* `Integration.Fetching.hindrance` : why a fetch fails.
* `Integration.fetch_success` : the meaning of success.
-/

namespace Webrev

/-! ### Names of branches -/

section Names

variable {ω ω' : Type}

/-- A branch is called what it was asked to be called. -/
def Repository.NamesBranches (repository : Repository ω) : Prop :=
  ∀ commit name world (branch : Branch) next,
    (repository.mutate (.branch commit name)).runAt world = (.ok branch, next) → branch = ⟨name⟩

theorem Repository.NamesBranches.zoom {repository : Repository ω'} (h : repository.NamesBranches)
    (get : ω → ω') (set : ω' → ω → ω) : (repository.zoom get set).NamesBranches := by
  intro commit name world branch next hrun
  rw [Repository.zoom, Attempt.runAt_zoom] at hrun
  exact h commit name (get world) branch _ (Prod.ext (Prod.mk.inj hrun).1 rfl)

/-- A repository in memory calls a branch what it was asked to call it. -/
theorem Memory.namesBranches : Memory.repository.NamesBranches := by
  intro commit name memory branch next hrun
  rcases runAt_mutate_cases (.branch commit name) memory with ⟨fault, h⟩ | h
  · exact nomatch congrArg Prod.fst (h.symm.trans hrun)
  · exact (Except.ok.inj (congrArg Prod.fst (h.symm.trans hrun))).symm

/-- A working copy of git calls a branch what it was asked to call it. -/
theorem Git.namesBranches (root : String) : (Git.repository root).NamesBranches := by
  intro commit name machine branch next hrun
  obtain ⟨out, machine', -, hpure⟩ := Attempt.exists_of_runAt_bind_ok hrun
  exact (Except.ok.inj (congrArg Prod.fst hpure)).symm

/-- Every call of a path is made in some world. -/
theorem Event.Path.exists_takes {client : Client ω} {repository : Repository ω} {world last : ω}
    {events : List Event} {event : Event} (h : Path client repository world events last)
    (he : event ∈ events) : ∃ here next, event.Takes client repository here next := by
  induction h with
  | nil => exact nomatch he
  | cons first _ ih =>
    rcases List.mem_cons.mp he with rfl | he
    · exact ⟨_, _, first⟩
    · exact ih he

end Names

namespace Integration

/-! ### The calls -/

/-- The orders of a fetch that succeeds. -/
def Fetched.orders (fetched : Fetched) (request : Request) (patch : PatchFile) (author : String) :
    List Event :=
  [.mutation (.branch fetched.target.commit request.branch) (.ok fetched.branch),
    .mutation (.checkout fetched.branch) (.ok ()),
    .mutation (.apply patch false) (.ok ()),
    .mutation (.commit request.location author "") (.ok fetched.commit)]

/-- What a fetch has done that succeeds, by the table of its page, by its patch and by whoever
prepared the change. -/
structure Accomplished (request : Request) (header : Page.Header) (patch : PatchFile)
    (author : String) (fetched : Fetched) (events : List Event) : Prop where
  /-- The calls, in order. -/
  calls : ∃ source uri previous choice recorded,
    Location.sanitize request.location = .ok source ∧
    Metadata.ofHeader header source = .ok fetched.metadata ∧
    fetched.metadata.patchUri = some uri ∧
    Target.Decided fetched.metadata request.reference (.ok fetched.target) choice ∧
    Recording (.ok previous) recorded ∧
    events = .query .isClean (.ok true) :: .header source (.ok header) :: .patch uri (.ok patch) ::
      (choice ++ (recorded ++ (fetched.orders request patch author ++ [.release patch])))
  /-- The commit is by whoever prepared the change. -/
  prepared : header.PreparedBy author
  /-- No other orders are given. -/
  ordered : events.filter Event.isMutation = fetched.orders request patch author

/-- The author in the metadata is whoever prepared the change. -/
theorem Accomplished.author_eq {request : Request} {header : Page.Header} {patch : PatchFile}
    {author : String} {fetched : Fetched} {events : List Event}
    (h : Accomplished request header patch author fetched events) :
    author = fetched.metadata.author.getD "" := by
  obtain ⟨source, uri, previous, choice, recorded, -, hm, -⟩ := h.calls
  rw [← Metadata.preparedBy_iff.mp h.prepared, Metadata.author_of_ofHeader hm]

section Calls

variable {request : Request} {events : List Event}

/-- The calls of a fetch that succeeds. -/
theorem Fetching.accomplished {fetched : Fetched} (h : Fetching request (.ok fetched) events) :
    ∃ header patch author, Accomplished request header patch author fetched events := by
  cases h with
  | @committed findings branch commit preparation committing hprep hc =>
    obtain rfl := hc.eq_of_ok
    have hquiet := hprep.quiet
    cases hprep with
    | @prepared _ download choice recorded hd hr hp =>
    obtain ⟨source, header, hs, hm, hl, rfl⟩ := hd.exists_page
    refine ⟨header, findings.patch, findings.metadata.author.getD "",
      ⟨source, findings.uri, findings.previous, choice, recorded, hs, hm, hl, hr.decided, hp, ?_⟩,
      Metadata.preparedBy_of_ofHeader hm, ?_⟩
    · simp [Fetched.orders]
    · rw [List.filter_append, List.filter_eq_nil_iff.mpr fun event he => by
        rw [hquiet event he]; decide]
      rfl

/-- The branch of a fetch that succeeds is the one that was made. -/
theorem Fetching.branch_mem {fetched : Fetched} (h : Fetching request (.ok fetched) events) :
    .mutation (.branch fetched.target.commit request.branch) (.ok fetched.branch) ∈ events := by
  cases h with
  | committed => exact List.mem_append_right _ List.mem_cons_self

end Calls

/-! ### What is left -/

section Left

variable {memory last : Memory} {request : Request} {events : List Event}

/-- A fetch that succeeds leaves its branch, which is checked out. -/
theorem Fetching.created {fetched : Fetched} (h : Fetching request (.ok fetched) events)
    (hp : memory.Plays events last) :
    fetched.branch = request.created ∧ last.current = some request.created ∧
      last.branches = memory.branches ++ [request.created] := by
  cases h with
  | committed hprep hc =>
    obtain ⟨-, rfl, hrest⟩ := hprep.branched hp
    obtain ⟨middle, hcommit, hlast⟩ := Memory.Plays.append_iff.mp hrest
    obtain rfl : last = middle := hlast.2
    obtain rfl := hc.eq_of_ok
    obtain rfl : last = Memory.after _ (.checkout request.created) := hcommit.2.2.2
    exact ⟨rfl, rfl, rfl⟩

end Left

/-! ### What stands in the way -/

/-- What makes a fetch fail, by the calls that it has made. -/
inductive Hindrance (request : Request) (events : List Event) : Prop
  | refused {event : Event} (h : event ∈ events) (ho : event.actsOutside = false)
      (hf : event.succeeded = false)
  | dirty (h : .query .isClean (.ok false) ∈ events)
  | malformed {fault : Location.Fault} (h : Location.sanitize request.location = .error fault)
  | noPage {source : Url} {e : AccessError} (h : .header source (.error e) ∈ events)
  | noRecord {source : Url} {header : Page.Header} {e : AccessError}
      (h : .header source (.ok header) ∈ events) (hm : Metadata.ofHeader header source = .error e)
  | noLink {source : Url} {header : Page.Header} {metadata : Metadata}
      (h : .header source (.ok header) ∈ events)
      (hm : Metadata.ofHeader header source = .ok metadata) (hl : metadata.patchUri = none)
  | noPatch {uri : Url} {e : AccessError} (h : .patch uri (.error e) ∈ events)
  | noTarget {source : Url} {header : Page.Header} {metadata : Metadata} {e : ResolveError}
      {choice : List Event} (h : .header source (.ok header) ∈ events)
      (hm : Metadata.ofHeader header source = .ok metadata) (hc : choice <:+: events)
      (hd : Target.Decided metadata request.reference (.error e) choice)
  | noHead (hc : .query .currentBranch (.ok none) ∈ events)
      (hh : .query (.resolve "HEAD") (.ok none) ∈ events)

section Hindrance

variable {request : Request} {part events : List Event} {e : Error}

theorem Hindrance.mono (h : Hindrance request part) (hi : part <:+: events) :
    Hindrance request events := by
  have hs := hi.subset
  cases h with
  | refused h ho hf => exact .refused (hs h) ho hf
  | dirty h => exact .dirty (hs h)
  | malformed h => exact .malformed h
  | noPage h => exact .noPage (hs h)
  | noRecord h hm => exact .noRecord (hs h) hm
  | noLink h hm hl => exact .noLink (hs h) hm hl
  | noPatch h => exact .noPatch (hs h)
  | noTarget h hm hc hd => exact .noTarget (hs h) hm (hc.trans hi) hd
  | noHead hc hh => exact .noHead (hs hc) (hs hh)

theorem Download.hindrance (h : Download request.location (.error e) events) :
    Hindrance request events := by
  cases h with
  | notRead h =>
    cases h with
    | malformed hs => exact .malformed hs
    | noPage => exact .noPage (List.mem_singleton_self _)
    | page hs hm => exact .noRecord (List.mem_singleton_self _) hm
  | noLink h hl =>
    cases h with
    | page hs hm => exact .noLink (List.mem_singleton_self _) hm hl
  | noPatch => exact .noPatch (List.mem_append_right _ (List.mem_singleton_self _))

theorem Recording.hindrance (h : Recording (.error e) events) : Hindrance request events := by
  cases h with
  | failed => exact .refused (List.mem_singleton_self _) rfl rfl
  | headFailed => exact .refused (List.mem_cons_of_mem _ (List.mem_singleton_self _)) rfl rfl
  | noHead => exact .noHead List.mem_cons_self (List.mem_cons_of_mem _ (List.mem_singleton_self _))

theorem Preparation.hindrance (h : Preparation request (.error e) events) :
    Hindrance request events := by
  cases h with
  | notAsked => exact .refused (List.mem_singleton_self _) rfl rfl
  | dirty => exact .dirty (List.mem_singleton_self _)
  | notDownloaded hd => exact hd.hindrance.mono (List.suffix_cons _ _).isInfix
  | @notResolved metadata uri patch _ download choice hd hr =>
    obtain ⟨source, header, -, hm, -, rfl⟩ := hd.exists_page
    refine .noTarget (List.mem_cons_of_mem _ List.mem_cons_self) hm ?_ hr.decided
    exact ⟨[.query .isClean (.ok true), .header source (.ok header), .patch uri (.ok patch)],
      [.release patch], by simp⟩
  | @notRecorded _ _ patch _ _ download choice recorded hd hr hc =>
    have hrecord : Hindrance request recorded := hc.hindrance
    exact hrecord.mono
      ⟨.query .isClean (.ok true) :: (download ++ choice), [.release patch], by simp⟩

/-- A fetch that fails has met a hindrance. -/
theorem Fetching.hindrance (h : Fetching request (.error e) events) : Hindrance request events := by
  cases h with
  | notPrepared hprep => exact hprep.hindrance
  | notBranched => exact .refused (List.mem_append_right _ List.mem_cons_self) rfl rfl
  | takenBack hprep hc hu =>
    obtain ⟨front, order, rfl, -⟩ := hc.ends
    exact .refused (List.mem_append_right _ (List.mem_cons_of_mem _ (List.mem_append_left _
      (List.mem_append_right _ (List.mem_singleton_self _))))) rfl rfl

end Hindrance

/-! ### Runs -/

section Runs

variable {ω σ : Type}

/-- **What success means.** A fetch that succeeds, with any client and any repository, has asked for
the page and for the patch, has chosen its target by the strongest evidence, and has then given four
orders: to make the branch at the target, to check it out, to apply the patch, and to commit it with
the location as its message and whoever prepared the change as its author. A fetch that fails has
met with a hindrance. With a repository in memory the branch is the requested one, it is checked out
in the end, and it comes after the branches that were there; and a fetch succeeds exactly when
everything that it needs is there and no call to the repository fails. -/
theorem fetch_success :
    (∀ (client : Client ω) (repository : Repository ω) (request : Request) (world : ω) fetched,
      ((fetch client repository request).runAt world).1 = .ok fetched →
      (∃ header patch author, Accomplished request header patch author fetched
          (fetchEvents client repository request world)) ∧
        (repository.NamesBranches → fetched.branch = request.created)) ∧
    (∀ (client : Client ω) (repository : Repository ω) (request : Request) (world : ω) e,
      ((fetch client repository request).runAt world).1 = .error e →
      Hindrance request (fetchEvents client repository request world)) ∧
    ∀ (client : Client σ) (request : Request) (world : Memory × σ),
      (∀ fetched, ((fetch client.beside Memory.beside request).runAt world).1 = .ok fetched →
        fetched.branch = request.created ∧
          ((fetch client.beside Memory.beside request).runAt world).2.1.current =
            some request.created ∧
          ((fetch client.beside Memory.beside request).runAt world).2.1.branches =
            world.1.branches ++ [request.created]) ∧
      (((fetch client.beside Memory.beside request).runAt world).1.isOk = true ↔
        Ready client request world ∧
          Undisturbed (fetchEvents client.beside Memory.beside request world)) := by
  refine ⟨fun client repository request world fetched hok => ?_,
    fun client repository request world e hfailed => ?_, fun client request world => ?_⟩
  · obtain ⟨hpath, hcourse⟩ := fetch_course client repository request world
    rw [hok] at hcourse
    refine ⟨hcourse.accomplished, fun hnames => ?_⟩
    obtain ⟨here, next, hmade⟩ := hpath.exists_takes hcourse.branch_mem
    exact hnames _ _ here _ next hmade
  · obtain ⟨-, hcourse⟩ := fetch_course client repository request world
    rw [hfailed] at hcourse
    exact hcourse.hindrance
  · obtain ⟨hpath, hcourse⟩ := fetch_course client.beside Memory.beside request world
    refine ⟨fun fetched hok => ?_, hcourse.isOk_iff hpath⟩
    rw [hok] at hcourse
    have hcreated := hcourse.created hpath.plays
    exact hcreated

end Runs

/-! ### A fetch of a page with an author -/

/-- A page whose table says who prepared the change. -/
def preparedPage : List UInt8 :=
  Utf8.encode ("<table>\n<tr><th>Prepared by:</th><td>alice alice@example.com</td></tr>\n" ++
    "<tr><th>Branch:</th><td>main</td></tr>\n" ++
    "<tr><th>Patch of changes:</th><td><a href=\"w.patch\">w.patch</a></td></tr>\n" ++
    "</table>\n").toList

/-- A network with the page and a patch, beside a repository in which the branch of the page is
checked out. -/
def preparedWorld : Memory × Http.Session :=
  (⟨[("main", ⟨"c1"⟩)], [⟨"main"⟩], some ⟨"main"⟩, [], true, [], none, ⟨"c2"⟩, fun _ _ => none, []⟩,
    ⟨⟨true, [⟨⟨200⟩, [preparedPage], none, false⟩, ⟨⟨200⟩, [[0x2B]], none, false⟩], []⟩,
      ⟨"/tmp", true, [], 0, []⟩, []⟩)

theorem fetch_success_of_prepared :
    ∃ fetched, ((fetch (Http.client "agent").beside Memory.beside refusedRequest).runAt
        preparedWorld).1 = .ok fetched ∧
      Ready (Http.client "agent") refusedRequest preparedWorld ∧
      .mutation (.commit "http://h/w/" "alice" "") (.ok fetched.commit) ∈
        fetchEvents (Http.client "agent").beside Memory.beside refusedRequest preparedWorld ∧
      fetched.branch = ⟨"fetched"⟩ ∧
      ((fetch (Http.client "agent").beside Memory.beside refusedRequest).runAt
        preparedWorld).2.1.branches = [⟨"main"⟩, ⟨"fetched"⟩] ∧
      Hindrance refusedRequest (fetchEvents (Http.client "agent").beside Memory.beside
        refusedRequest (refusing none [.apply])) := by
  have hrefused : ((fetch (Http.client "agent").beside Memory.beside refusedRequest).runAt
      (refusing none [.apply])).1 = .error (.repository (.commandFailed "apply" "refused")) := by
    decide +kernel
  have hread : ((fetch (Http.client "agent").beside Memory.beside refusedRequest).runAt
      preparedWorld).1.map (·.metadata.author) = .ok (some "alice") := by decide +kernel
  obtain ⟨hany, hfailing, hmemory⟩ := @fetch_success (Memory × Http.Session) Http.Session
  obtain ⟨hcreated, hready⟩ := hmemory (Http.client "agent") refusedRequest preparedWorld
  cases hok : ((fetch (Http.client "agent").beside Memory.beside refusedRequest).runAt
      preparedWorld).1 with
  | error e =>
    rw [hok] at hread
    exact nomatch hread
  | ok fetched =>
    obtain ⟨⟨header, patch, author, hdone⟩, hbranch⟩ := hany _ _ _ _ fetched hok
    rw [hok] at hread hready
    have hname : fetched.metadata.author = some "alice" := Except.ok.inj hread
    have hauthor : author = "alice" := by rw [hdone.author_eq, hname, Option.getD_some]
    have hcommit : .mutation (.commit refusedRequest.location author "") (.ok fetched.commit) ∈
        fetched.orders refusedRequest patch author := by simp [Fetched.orders]
    rw [← hdone.ordered, hauthor] at hcommit
    exact ⟨fetched, rfl, (hready.mp rfl).1, (List.mem_filter.mp hcommit).1,
      hbranch (Memory.namesBranches.zoom _ _), (hcreated fetched hok).2.2,
      hfailing _ _ _ _ _ hrefused⟩

end Integration

end Webrev
