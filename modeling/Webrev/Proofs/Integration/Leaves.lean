import Webrev.Proofs.Integration.Course
import Webrev.Proofs.Repository.Replay

/-!
# What a fetch leaves in a repository

The branches of a repository in memory, and the branch that is checked out in it, are followed
through the parts of a course. Finding out what is needed changes neither. The new branch is made,
the patch is committed on it, and when that fails the changes are discarded, what was checked out
before is checked out again and the branch is deleted, in this order and up to the first call that
fails.

## Main definitions

* `Integration.Previous.Holds` : what is checked out in a repository.
* `Integration.undoing` : the calls that take a fetch back.

## Main results

* `Integration.Preparation.holds` : what is recorded before the branch is made is what is checked
  out.
* `Integration.Committing.leaves`, `Integration.TakingBack.leaves_of_ok`,
  `Integration.TakingBack.leaves_of_error` : the parts after that.
* `Integration.Fetching.leaves` : the branches and the current branch after any course.
-/

namespace Webrev.Integration

variable {memory last : Memory} {request : Request} {events : List Event}

/-! ### What is checked out -/

/-- The branch of what was checked out. -/
def Previous.current : Previous → Option Branch
  | .branch name => some name
  | .detached _ => none

/-- What is checked out in a repository. -/
def Previous.Holds (memory : Memory) : Previous → Prop
  | .branch name => memory.current = some name
  | .detached commit => memory.current = none ∧ memory.refs.lookup "HEAD" = some commit

@[simp]
theorem Previous.holds_knowledge {previous : Previous} :
    previous.Holds memory.knowledge ↔ previous.Holds memory := by
  cases previous <;> simp only [Holds, Memory.knowledge_current, Memory.knowledge_refs]

theorem Previous.Holds.current_eq {previous : Previous} (h : previous.Holds memory) :
    previous.current = memory.current := by
  cases previous with
  | branch => exact h.symm
  | detached => exact h.1.symm

/-- What is recorded is what is checked out. -/
theorem Recording.holds {previous : Previous} (h : Recording (.ok previous) events)
    (hp : memory.Plays events last) : previous.Holds memory := by
  cases h with
  | branch => exact hp.1.symm
  | detached => exact ⟨hp.1.symm, hp.2.1.symm⟩

/-- A preparation changes nothing. -/
theorem Preparation.eq_of_plays {outcome : Except Error Findings}
    (h : Preparation request outcome events) (hp : memory.Plays events last) : last = memory :=
  hp.eq_of_quiet h.quiet

/-- What a preparation finds checked out is what is checked out. -/
theorem Preparation.holds {findings : Findings} (h : Preparation request (.ok findings) events)
    (hp : memory.Plays events last) : findings.previous.Holds memory := by
  cases h with
  | prepared hd hr hc =>
    obtain ⟨m₁, hp₁, hrest⟩ := Memory.Plays.append_iff.mp hp.2
    obtain ⟨m₂, hp₂, hp₃⟩ := Memory.Plays.append_iff.mp hrest
    obtain rfl : m₁ = memory := hp₁.eq_of_quiet hd.quiet
    obtain rfl : m₂ = m₁ := hp₂.eq_of_quiet (.of_isQuery hr.asks)
    exact hc.holds hp₃

/-! ### Committing and taking back -/

section Parts

variable {branch : Branch} {patch : PatchFile} {message author : String} {previous : Previous}

/-- A commit leaves the branches as they are, and checks out nothing but its branch. -/
theorem Committing.leaves {outcome : Except RepositoryError CommitHash}
    (h : Committing branch patch message author outcome events) (hp : memory.Plays events last) :
    last.branches = memory.branches ∧
      (last.current = memory.current ∨ last.current = some branch) := by
  cases h with
  | notCheckedOut e =>
    obtain rfl : last = memory := hp.2
    exact ⟨rfl, .inl rfl⟩
  | notApplied e =>
    obtain rfl : last = memory.after (.checkout branch) := hp.2.2
    exact ⟨rfl, .inr rfl⟩
  | committed outcome =>
    obtain rfl : last = memory.after (.checkout branch) := by
      cases outcome <;> exact hp.2.2.2
    exact ⟨rfl, .inr rfl⟩

theorem Committing.undoes_eq_false {outcome : Except RepositoryError CommitHash}
    (h : Committing branch patch message author outcome events) :
    ∀ event ∈ events, event.undoes = false := by
  cases h <;> simp [Event.undoes, Event.order?]

@[simp]
theorem Previous.succeeded_restoring (outcome : Except RepositoryError Unit) :
    (previous.restoring outcome).succeeded = outcome.isOk := by
  cases previous <;> rfl

/-- What was checked out before is checked out again. -/
theorem Previous.after_restoring_ok :
    memory.afterEvent (previous.restoring (.ok ())) =
      { memory with current := previous.current } := by
  cases previous <;> rfl

theorem Previous.after_restoring_error (e : RepositoryError) :
    memory.afterEvent (previous.restoring (.error e)) = memory := by
  cases previous <;> rfl

/-- A fetch that is not taken back to the end keeps its branch. -/
theorem TakingBack.leaves_of_error {e : RepositoryError}
    (h : TakingBack previous branch (.error e) events) (hp : memory.Plays events last) :
    last.branches = memory.branches ∧
      (last.current = memory.current ∨ last.current = previous.current) := by
  cases h with
  | notDiscarded =>
    obtain rfl : last = memory := hp.2
    exact ⟨rfl, .inl rfl⟩
  | notRestored =>
    obtain rfl : last = memory := hp.2.2.trans (Previous.after_restoring_error e)
    exact ⟨rfl, .inl rfl⟩
  | deleted =>
    obtain rfl : last = { memory with current := previous.current } :=
      hp.2.2.2.trans Previous.after_restoring_ok
    exact ⟨rfl, .inr rfl⟩

/-- A fetch that is taken back to the end loses its branch, and what was checked out before is
checked out again. -/
theorem TakingBack.leaves_of_ok (h : TakingBack previous branch (.ok ()) events)
    (hp : memory.Plays events last) :
    last.branches = memory.branches.filter (· ≠ branch) ∧ last.current = previous.current := by
  cases h with
  | deleted =>
    obtain rfl :
        last = (memory.afterEvent (previous.restoring (.ok ()))).after (.deleteBranch branch) :=
      hp.2.2.2
    rw [Previous.after_restoring_ok]
    exact ⟨rfl, rfl⟩

/-- A fetch that is not taken back to the end has a call that failed. -/
theorem TakingBack.exists_failed {e : RepositoryError}
    (h : TakingBack previous branch (.error e) events) :
    ∃ event ∈ events, event.succeeded = false := by
  cases h with
  | notDiscarded => exact ⟨_, List.mem_singleton_self _, rfl⟩
  | notRestored =>
    exact ⟨_, List.mem_append_right [_] (List.mem_singleton_self _),
      Previous.succeeded_restoring (.error e)⟩
  | deleted => exact ⟨_, List.mem_append_right [_, _] (List.mem_singleton_self _), rfl⟩

end Parts

/-! ### Whole courses -/

/-- The branch that a fetch makes. -/
def Request.created (request : Request) : Branch := ⟨request.branch⟩

/-- After its preparation a fetch makes the requested branch, and goes on with it. -/
theorem Preparation.branched {findings : Findings} {branch : Branch} {rest : List Event}
    (h : Preparation request (.ok findings) events)
    (hp : memory.Plays
      (events ++ .mutation (.branch findings.target.commit request.branch) (.ok branch) :: rest)
      last) :
    findings.previous.Holds memory ∧ branch = request.created ∧
      { memory with branches := memory.branches ++ [request.created] }.Plays rest last := by
  obtain ⟨middle, hprep, hbranch, hrest⟩ := Memory.Plays.append_iff.mp hp
  obtain rfl := h.eq_of_plays hprep
  exact ⟨h.holds hprep, hbranch, hrest⟩

/-- A branch that was not there is added and deleted. -/
theorem filter_append_created {branches : List Branch} {branch : Branch} (h : branch ∉ branches) :
    (branches ++ [branch]).filter (· ≠ branch) = branches := by
  rw [List.filter_append, List.filter_eq_self.mpr fun other ho => by
    simpa using ne_of_mem_of_not_mem ho h]
  simp

/-- The calls that take a fetch back, and those after them. -/
def undoing (events : List Event) : List Event := events.dropWhile (!·.undoes)

/-- Up to the end of its commit a fetch takes nothing back. -/
theorem Committing.undoes_eq_false_of_mem {findings : Findings} {branch : Branch}
    {message author : String}
    {committed : Except RepositoryError CommitHash} {committing : List Event}
    (hc : Committing branch findings.patch message author committed committing)
    (hprep : Preparation request (.ok findings) events) :
    ∀ event ∈ events ++ .mutation (.branch findings.target.commit request.branch) (.ok branch) ::
      committing, event.undoes = false :=
  List.forall_mem_append.mpr ⟨hprep.quiet.undoes_eq_false,
    List.forall_mem_cons.mpr ⟨rfl, hc.undoes_eq_false⟩⟩

/-- The taking back of a fetch begins where changes are discarded. -/
theorem TakingBack.undoing_eq {previous : Previous} {branch : Branch}
    {undone : Except RepositoryError Unit} {front back rest : List Event}
    (hu : TakingBack previous branch undone back) (hf : ∀ event ∈ front, event.undoes = false) :
    undoing (front ++ (back ++ rest)) = back ++ rest := by
  rw [undoing, List.dropWhile_append_of_pos fun event he => by rw [hf event he, Bool.not_false]]
  cases hu <;> rfl

/-- After any course the branches are what they were, with what was checked out before; or the new
branch is there as well and may be checked out, and then the fetch did not fail or could not be
taken back. -/
theorem Fetching.leaves {outcome : Except Error Fetched} (h : Fetching request outcome events)
    (hp : memory.Plays events last) (hfresh : request.created ∉ memory.branches) :
    last.branches = memory.branches ∧ last.current = memory.current ∨
      last.branches = memory.branches ++ [request.created] ∧
        (last.current = memory.current ∨ last.current = some request.created) ∧
        (outcome.isOk ∨ ∃ event ∈ undoing events, event.succeeded = false) := by
  cases h with
  | notPrepared hprep =>
    obtain rfl := hprep.eq_of_plays hp
    exact .inl ⟨rfl, rfl⟩
  | notBranched hprep e =>
    obtain ⟨middle, hp₁, hp₂⟩ := Memory.Plays.append_iff.mp hp
    obtain rfl := hprep.eq_of_plays hp₁
    obtain rfl : last = middle := hp₂.2.2
    exact .inl ⟨rfl, rfl⟩
  | committed hprep hc =>
    obtain ⟨-, rfl, hrest⟩ := hprep.branched hp
    obtain ⟨middle, hcommit, hlast⟩ := Memory.Plays.append_iff.mp hrest
    obtain rfl : last = middle := hlast.2
    obtain ⟨hb, hcur⟩ := hc.leaves hcommit
    exact .inr ⟨hb, hcur, .inl rfl⟩
  | @takenBack findings branch e undone preparation committing back hprep hc hu =>
    obtain ⟨hprevious, rfl, hrest⟩ := hprep.branched hp
    obtain ⟨m₁, hcommit, hrest⟩ := Memory.Plays.append_iff.mp hrest
    obtain ⟨m₂, hundo, hlast⟩ := Memory.Plays.append_iff.mp hrest
    obtain rfl : last = m₂ := hlast.2
    obtain ⟨hb₁, hcur₁⟩ := hc.leaves hcommit
    -- Only when the last step of the taking back succeeds is the branch gone; before that the new
    -- branch may still be checked out, when not even the changes could be discarded.
    cases undone with
    | ok =>
      obtain ⟨hb₂, hcur₂⟩ := hu.leaves_of_ok hundo
      rw [hb₁, filter_append_created hfresh] at hb₂
      exact .inl ⟨hb₂, hcur₂.trans hprevious.current_eq⟩
    | error e' =>
      obtain ⟨hb₂, hcur₂⟩ := hu.leaves_of_error hundo
      rw [hprevious.current_eq] at hcur₂
      refine .inr ⟨hb₂.trans hb₁, ?_, .inr ?_⟩
      · rcases hcur₂ with hcur₂ | hcur₂
        · rw [hcur₂]
          exact hcur₁
        · exact .inl hcur₂
      · rw [← List.cons_append, ← List.append_assoc,
          hu.undoing_eq (hc.undoes_eq_false_of_mem hprep)]
        obtain ⟨event, hevent, hfailed⟩ := hu.exists_failed
        exact ⟨event, List.mem_append_left _ hevent, hfailed⟩

end Webrev.Integration
