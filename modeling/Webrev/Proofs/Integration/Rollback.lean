import Webrev.Http.Download
import Webrev.Proofs.Integration.Leaves

/-!
# Failing fetches

A fetch that fails after its branch was made is taken back, and every step of this may fail in turn.
The client acts on a world of its own, of which nothing is assumed, and any calls to the repository
may fail. Without a failure in the taking back the repository is as it was. With one it still holds
all of its branches, what is checked out in it is one of them, and whoever asked is told why the
patch could not be committed.

## Main definitions

* `Integration.DeletesAfterRestoring` : the branch is deleted last of all.
* `Integration.ReportsCommit` : the outcome is the error of the commit.

## Main results

* `Integration.Fetching.undoes_cases` : what is taken back is a commit that failed.
* `Integration.fetch_undone` : a failing fetch whose taking back does not fail leaves no trace.
* `Integration.fetch_safe` : what holds when the taking back fails as well.
-/

namespace Webrev.Integration

variable {memory last : Memory} {request : Request} {events : List Event}

/-! ### Calls of the taking back -/

/-- A commit that fails ends with the step that failed. -/
theorem Committing.ends {branch : Branch} {patch : PatchFile} {message author : String}
    {e : RepositoryError}
    (h : Committing branch patch message author (.error e) events) :
    ∃ front order, events = front ++ [.mutation order (.error e)] ∧
      (order = .checkout branch ∨ order = .apply patch false ∨
        order = .commit message author "") := by
  cases h with
  | notCheckedOut => exact ⟨[], _, rfl, .inl rfl⟩
  | notApplied => exact ⟨[_], _, rfl, .inr (.inl rfl)⟩
  | committed => exact ⟨[_, _], _, rfl, .inr (.inr rfl)⟩

/-- The changes are discarded once, and first of all. -/
theorem TakingBack.begins {previous : Previous} {branch : Branch}
    {undone : Except RepositoryError Unit} (h : TakingBack previous branch undone events) :
    ∃ discarded rest, events = .mutation .discardChanges discarded :: rest ∧
      ∀ event ∈ rest, event.order? ≠ some .discardChanges := by
  cases h <;> cases previous <;> exact ⟨_, _, rfl, by simp [Previous.restoring, Event.order?]⟩

/-- If the branch is deleted, this is last of all, and nothing before it failed. -/
theorem TakingBack.ends {previous : Previous} {branch : Branch}
    {undone : Except RepositoryError Unit} (h : TakingBack previous branch undone events) :
    (∀ event ∈ events, ∀ other, event.order? ≠ some (.deleteBranch other)) ∨
      events = [.mutation .discardChanges (.ok ()), previous.restoring (.ok ()),
        .mutation (.deleteBranch branch) undone] := by
  cases h with
  | notDiscarded => exact .inl (by simp [Event.order?])
  | notRestored => exact .inl (by cases previous <;> simp [Previous.restoring, Event.order?])
  | deleted => exact .inr rfl

/-- A fetch has calls that take changes back only when its commit has failed. -/
theorem Fetching.undoes_cases {outcome : Except Error Fetched}
    (h : Fetching request outcome events) :
    (∀ event ∈ events, event.undoes = false) ∨
    ∃ findings branch e undone preparation committing back,
      Preparation request (.ok findings) preparation ∧
      Committing branch findings.patch request.location (findings.metadata.author.getD "")
        (.error e) committing ∧
      TakingBack findings.previous branch undone back ∧ outcome = .error (.repository e) ∧
      events = preparation ++
        .mutation (.branch findings.target.commit request.branch) (.ok branch) :: committing ++
          (back ++ [.release findings.patch]) := by
  cases h with
  | notPrepared hprep => exact .inl (hprep.quiet.undoes_eq_false)
  | notBranched hprep e =>
    exact .inl (List.forall_mem_append.mpr
      ⟨hprep.quiet.undoes_eq_false, by simp [Event.undoes, Event.order?]⟩)
  | committed hprep hc =>
    rw [← List.cons_append, ← List.append_assoc]
    refine .inl (List.forall_mem_append.mpr ⟨hc.undoes_eq_false_of_mem hprep, ?_⟩)
    simp [Event.undoes, Event.order?]
  | takenBack hprep hc hu =>
    exact .inr ⟨_, _, _, _, _, _, _, hprep, hc, hu, rfl, by simp⟩

/-- A branch is deleted at most once: the one that was made, after the changes were discarded and
what had been checked out before was checked out again. -/
def DeletesAfterRestoring (memory : Memory) (request : Request) (events : List Event) : Prop :=
  ∀ before after branch deleted,
    events = before ++ .mutation (.deleteBranch branch) deleted :: after →
    branch = request.created ∧
    (∃ (front : List Event) (previous : Previous) (commit : CommitHash),
      before = front ++ [.mutation .discardChanges (.ok ()), previous.restoring (.ok ())] ∧
      .mutation (.branch commit request.branch) (.ok request.created) ∈ front ∧
      previous.Holds memory) ∧
    ∀ event ∈ before ++ after, ∀ other, event.order? ≠ some (.deleteBranch other)

/-- Changes are discarded only right after a step of the commit failed, and then its error is the
outcome. -/
def ReportsCommit (request : Request) (outcome : Except Error Fetched) (events : List Event) :
    Prop :=
  ∀ before after discarded, events = before ++ .mutation .discardChanges discarded :: after →
    ∃ front order e, before = front ++ [.mutation order (.error e)] ∧
      (order = .checkout request.created ∨ (∃ patch, order = .apply patch false) ∨
        ∃ author, order = .commit request.location author "") ∧
      outcome = .error (.repository e) ∧ ∀ event ∈ before, event.order? ≠ some .discardChanges

theorem Fetching.deletesAfterRestoring {outcome : Except Error Fetched}
    (h : Fetching request outcome events) (hp : memory.Plays events last) :
    DeletesAfterRestoring memory request events := by
  intro before after branch deleted hsplit
  have hmem : Event.mutation (.deleteBranch branch) deleted ∈ events :=
    hsplit ▸ List.mem_append_right _ List.mem_cons_self
  rcases h.undoes_cases with hnone | ⟨findings, made, e, undone, preparation, committing, back,
    hprep, hc, hu, -, rfl⟩
  · exact nomatch hnone _ hmem
  have hfront : ∀ event ∈ preparation ++
      .mutation (.branch findings.target.commit request.branch) (.ok made) :: committing,
      ∀ other, event.order? ≠ some (.deleteBranch other) := fun event he other =>
    Event.order?_ne_of_undoes (hc.undoes_eq_false_of_mem hprep event he) fun _ => rfl
  have hrelease : ∀ event ∈ [Event.release findings.patch],
      ∀ other, event.order? ≠ some (.deleteBranch other) := by simp [Event.order?]
  -- Where no branch is deleted the event cannot stand; else all of the taking back has succeeded up
  -- to it, and it stands nowhere else.
  rcases hu.ends with hback | rfl
  · exact absurd rfl (List.forall_mem_append.mpr
      ⟨hfront, List.forall_mem_append.mpr ⟨hback, hrelease⟩⟩ _ hmem branch)
  have hundone : ∀ event ∈ [Event.mutation .discardChanges (.ok ()),
      findings.previous.restoring (.ok ())],
      ∀ other, event.order? ≠ some (.deleteBranch other) := by
    cases findings.previous <;> simp [Previous.restoring, Event.order?]
  have hbefore := List.forall_mem_append.mpr ⟨hfront, hundone⟩
  obtain ⟨rfl, ⟨⟩, rfl⟩ := (List.append_cons_inj_of_notMem (fun hm => hbefore _ hm branch rfl)
    fun hm => hrelease _ hm branch rfl).mp ((List.append_assoc ..).trans hsplit)
  simp only [List.append_assoc, List.cons_append] at hp
  obtain ⟨hprevious, rfl, -⟩ := hprep.branched hp
  refine ⟨rfl, ⟨_, findings.previous, findings.target.commit, rfl, ?_, hprevious⟩,
    List.forall_mem_append.mpr ⟨hbefore, hrelease⟩⟩
  exact List.mem_append_right _ List.mem_cons_self

theorem Fetching.reportsCommit {outcome : Except Error Fetched}
    (h : Fetching request outcome events) (hp : memory.Plays events last) :
    ReportsCommit request outcome events := by
  intro before after discarded hsplit
  have hmem : Event.mutation .discardChanges discarded ∈ events :=
    hsplit ▸ List.mem_append_right _ List.mem_cons_self
  rcases h.undoes_cases with hnone | ⟨findings, made, e, undone, preparation, committing, back,
    hprep, hc, hu, rfl, rfl⟩
  · exact nomatch hnone _ hmem
  have hfront : ∀ event ∈ preparation ++
      .mutation (.branch findings.target.commit request.branch) (.ok made) :: committing,
      event.order? ≠ some .discardChanges := fun event he =>
    Event.order?_ne_of_undoes (hc.undoes_eq_false_of_mem hprep event he) fun _ => rfl
  obtain ⟨discarded', rest, rfl, hrest⟩ := hu.begins
  have hafter : ∀ event ∈ rest ++ [Event.release findings.patch],
      event.order? ≠ some .discardChanges :=
    List.forall_mem_append.mpr ⟨hrest, by simp [Event.order?]⟩
  obtain ⟨rfl, -, -⟩ := (List.append_cons_inj_of_notMem (fun hm => hfront _ hm rfl)
    fun hm => hafter _ hm rfl).mp hsplit
  simp only [List.append_assoc, List.cons_append] at hp
  obtain ⟨-, rfl, -⟩ := hprep.branched hp
  obtain ⟨front, order, rfl, horder⟩ := hc.ends
  refine ⟨preparation ++ .mutation (.branch findings.target.commit request.branch)
    (.ok request.created) :: front, order, e, by simp, ?_, rfl, hfront⟩
  rcases horder with rfl | rfl | rfl
  · exact .inl rfl
  · exact .inr (.inl ⟨_, rfl⟩)
  · exact .inr (.inr ⟨_, rfl⟩)

/-! ### A patch that is refused -/

/-- A page whose table says which commit to apply to and where the patch is. -/
def refusedPage : List UInt8 :=
  Utf8.encode ("<table>\n<tr><th>Compare against revision:</th><td>c0</td></tr>\n" ++
    "<tr><th>Patch of changes:</th><td><a href=\"w.patch\">w.patch</a></td></tr>\n" ++
    "</table>\n").toList

/-- A network with the page and a patch. -/
def refusedSession : Http.Session :=
  ⟨⟨true, [⟨⟨200⟩, [refusedPage], none, false⟩, ⟨⟨200⟩, [[0x2B]], none, false⟩], []⟩,
    ⟨"/tmp", true, [], 0, []⟩, []⟩

/-- The network beside a repository in which some calls fail. -/
def refusing (current : Option Branch) (failing : List Method) : Memory × Http.Session :=
  (⟨[("HEAD", ⟨"c1"⟩)], [⟨"main"⟩], current, [], true, [], none, ⟨"c2"⟩,
    fun method _ => if method ∈ failing then some (.commandFailed "apply" "refused") else none, []⟩,
    refusedSession)

/-- The fetch of the page. -/
def refusedRequest : Request := ⟨"http://h/w/", "fetched", none⟩

/-! ### Runs -/

section Runs

variable {σ : Type} (client : Client σ) (request : Request) (world : Memory × σ)

/-- After any run the branches are what they were, with what was checked out before; or the new
branch is there as well and may be checked out, and then the fetch did not fail or could not be
taken back. -/
theorem fetch_leaves (hfresh : request.created ∉ world.1.branches) :
    ((fetch client.beside Memory.beside request).runAt world).2.1.branches = world.1.branches ∧
        ((fetch client.beside Memory.beside request).runAt world).2.1.current = world.1.current ∨
      ((fetch client.beside Memory.beside request).runAt world).2.1.branches =
          world.1.branches ++ [request.created] ∧
        (((fetch client.beside Memory.beside request).runAt world).2.1.current = world.1.current ∨
          ((fetch client.beside Memory.beside request).runAt world).2.1.current =
            some request.created) ∧
        (((fetch client.beside Memory.beside request).runAt world).1.isOk ∨
          ∃ event ∈ undoing (fetchEvents client.beside Memory.beside request world),
            event.succeeded = false) := by
  obtain ⟨hpath, hcourse⟩ := fetch_course client.beside Memory.beside request world
  have hleaves := hcourse.leaves hpath.plays hfresh
  exact hleaves

/-- **A failing fetch leaves no trace.** Whatever fails, if no call of the taking back does, the
branches are what they were, and so is what is checked out. -/
theorem fetch_undone {e : Error} (hfresh : request.created ∉ world.1.branches)
    (hfailed : ((fetch client.beside Memory.beside request).runAt world).1 = .error e)
    (hundone : ∀ event ∈ undoing (fetchEvents client.beside Memory.beside request world),
      event.succeeded) :
    ((fetch client.beside Memory.beside request).runAt world).2.1.branches = world.1.branches ∧
      ((fetch client.beside Memory.beside request).runAt world).2.1.current = world.1.current := by
  rcases fetch_leaves client request world hfresh with hsame | ⟨-, -, hok | ⟨event, hevent, hf⟩⟩
  · exact hsame
  · rw [hfailed] at hok
    exact nomatch hok
  · exact nomatch hf.symm.trans (hundone event hevent)

theorem fetch_undone_of_refused :
    ((fetch (Http.client "agent").beside Memory.beside refusedRequest).runAt
        (refusing none [.apply])).1 = .error (.repository (.commandFailed "apply" "refused")) ∧
      ((fetch (Http.client "agent").beside Memory.beside refusedRequest).runAt
        (refusing none [.apply])).2.1.branches = [⟨"main"⟩] := by
  have hfailed : ((fetch (Http.client "agent").beside Memory.beside refusedRequest).runAt
      (refusing none [.apply])).1 = .error (.repository (.commandFailed "apply" "refused")) := by
    decide +kernel
  exact ⟨hfailed, (fetch_undone (Http.client "agent") refusedRequest (refusing none [.apply])
    (by decide) hfailed (by decide +kernel)).1⟩

/-- **A fetch is safe even when it cannot be taken back.** Whatever fails, no branch is lost and at
most the new one is added; what is checked out is there; the new branch is deleted only after what
was checked out before is checked out again; and the outcome tells why the commit failed, not why it
could not be taken back. -/
theorem fetch_safe (hfresh : request.created ∉ world.1.branches)
    (hcurrent : ∀ branch, world.1.current = some branch → branch ∈ world.1.branches) :
    (((fetch client.beside Memory.beside request).runAt world).2.1.branches = world.1.branches ∨
      ((fetch client.beside Memory.beside request).runAt world).2.1.branches =
        world.1.branches ++ [request.created]) ∧
    (∀ branch, ((fetch client.beside Memory.beside request).runAt world).2.1.current = some branch →
      branch ∈ ((fetch client.beside Memory.beside request).runAt world).2.1.branches) ∧
    DeletesAfterRestoring world.1 request (fetchEvents client.beside Memory.beside request world) ∧
    ReportsCommit request ((fetch client.beside Memory.beside request).runAt world).1
      (fetchEvents client.beside Memory.beside request world) := by
  obtain ⟨hpath, hcourse⟩ := fetch_course client.beside Memory.beside request world
  have hleaves := fetch_leaves client request world hfresh
  refine ⟨?_, ?_, ?_, hcourse.reportsCommit hpath.plays⟩
  · exact hleaves.imp And.left And.left
  · intro branch hbranch
    rcases hleaves with ⟨hb, hc⟩ | ⟨hb, hc | hc, -⟩
    · rw [hb]
      exact hcurrent branch (hc.symm.trans hbranch)
    · rw [hb]
      exact List.mem_append_left _ (hcurrent branch (hc.symm.trans hbranch))
    · rw [hb, ← Option.some.inj (hc.symm.trans hbranch)]
      exact List.mem_append_right _ (List.mem_singleton_self _)
  · simpa only [DeletesAfterRestoring, Previous.holds_knowledge] using
      hcourse.deletesAfterRestoring hpath.plays

theorem fetch_safe_of_refused :
    ((fetch (Http.client "agent").beside Memory.beside refusedRequest).runAt
        (refusing (some ⟨"main"⟩) [.apply, .discardChanges])).2.1.branches =
          [⟨"main"⟩, ⟨"fetched"⟩] ∧
      ∀ branch, ((fetch (Http.client "agent").beside Memory.beside refusedRequest).runAt
        (refusing (some ⟨"main"⟩) [.apply, .discardChanges])).2.1.current = some branch →
          branch ∈ ((fetch (Http.client "agent").beside Memory.beside refusedRequest).runAt
            (refusing (some ⟨"main"⟩) [.apply, .discardChanges])).2.1.branches := by
  have hsafe := fetch_safe (Http.client "agent") refusedRequest
    (refusing (some ⟨"main"⟩) [.apply, .discardChanges]) (by decide) (by rintro _ ⟨⟩; decide)
  exact ⟨by decide +kernel, hsafe.2.1⟩

end Runs

end Webrev.Integration
