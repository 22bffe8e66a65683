import Webrev.Proofs.Journal.Event
import Webrev.Repository.Memory

/-!
# What a repository in memory knows after its calls

A repository in memory stands beside whatever a client acts on. Neither touches the other, and what
the repository knows after a run is what the calls of the run make of what it knew before: a
question is answered from what is known, a call that fails changes nothing, and nothing else is
changed than by the orders that succeed.

## Main definitions

* `Memory.beside`, `Client.beside` : a repository in memory and a client, side by side.
* `Memory.knowledge` : a repository in memory apart from its account of its calls.
* `Memory.Plays` : what the calls of a run make of what is known.

## Main results

* `Event.Takes.plays`, `Event.Path.plays` : one call, and the calls of a run.
* `Memory.Plays.eq_of_quiet` : without an order nothing becomes known and nothing is forgotten.
* `Event.Path.outside_eq` : without a request and a release the client's part stays as it is.
-/

namespace Webrev

variable {σ : Type}

/-- The client beside a repository in memory. -/
def Client.beside (client : Client σ) : Client (Memory × σ) :=
  client.zoom Prod.snd fun outside world => (world.1, outside)

namespace Memory

/-- The repository in memory beside whatever a client acts on. -/
def beside : Repository (Memory × σ) :=
  repository.zoom Prod.fst fun memory world => (memory, world.2)

/-- A repository in memory apart from its account of its calls. -/
def knowledge (memory : Memory) : Memory := { memory with calls := [] }

@[simp]
theorem knowledge_branches (memory : Memory) : memory.knowledge.branches = memory.branches := rfl

@[simp]
theorem knowledge_current (memory : Memory) : memory.knowledge.current = memory.current := rfl

@[simp]
theorem knowledge_refs (memory : Memory) : memory.knowledge.refs = memory.refs := rfl

/-- What is known after a call. -/
def afterEvent (memory : Memory) : Event → Memory
  | .mutation order (.ok _) => memory.after order
  | _ => memory

/-- What a call gives back goes with what is known. -/
def Admits (memory : Memory) : Event → Prop
  | .query question (.ok answer) => answer = memory.answer question
  | .mutation order (.ok answer) => answer = memory.result order
  | _ => True

/-- What the calls of a run make of what is known. -/
def Plays (memory : Memory) : List Event → Memory → Prop
  | [], last => last = memory
  | event :: events, last => memory.Admits event ∧ (memory.afterEvent event).Plays events last

/-! ### One call -/

/-- The repository with one more call in its account. -/
def put (memory : Memory) (c : Call) : Memory := { memory with calls := memory.calls ++ [c] }

theorem runAt_call_of_failure {c : Call} {memory : Memory} {fault : RepositoryError}
    (h : memory.failure c.method ((memory.put c).count c.method) = some fault) :
    (call c).runAt memory = (.error fault, memory.put c) := by
  rw [put] at h
  simp only [call, Attempt.runAt, ExceptT.run, ExceptT.mk, h]
  rfl

theorem runAt_call_of_no_failure {c : Call} {memory : Memory}
    (h : memory.failure c.method ((memory.put c).count c.method) = none) :
    (call c).runAt memory = (.ok (), memory.put c) := by
  rw [put] at h
  simp only [call, Attempt.runAt, ExceptT.run, ExceptT.mk, h]
  rfl

/-- A call fails and changes nothing, or it does what it is to do. -/
theorem runAt_call_cases (c : Call) (memory : Memory) :
    (∃ fault, (call c).runAt memory = (.error fault, memory.put c)) ∨
      (call c).runAt memory = (.ok (), memory.put c) := by
  cases h : memory.failure c.method ((memory.put c).count c.method) with
  | some fault => exact .inl ⟨fault, runAt_call_of_failure h⟩
  | none => exact .inr (runAt_call_of_no_failure h)

theorem knowledge_after (memory : Memory) (order : Mutation) :
    (memory.after order).knowledge = memory.knowledge.after order := by
  cases order <;> rfl

theorem knowledge_after_put (memory : Memory) (c : Call) (order : Mutation) :
    ((memory.put c).after order).knowledge = memory.knowledge.after order :=
  knowledge_after (memory.put c) order

theorem answer_put (memory : Memory) (c : Call) (question : Query) :
    (memory.put c).answer question = memory.knowledge.answer question := by
  cases question <;> rfl

theorem answer_knowledge (memory : Memory) (question : Query) :
    memory.knowledge.answer question = memory.answer question := by
  cases question <;> rfl

theorem result_put (memory : Memory) (c : Call) (order : Mutation) :
    (memory.put c).result order = memory.knowledge.result order := by
  cases order <;> rfl

theorem runAt_beside_query (question : Query) (world : Memory × σ) :
    (beside.query question).runAt world =
      (((repository.query question).runAt world.1).1,
        (((repository.query question).runAt world.1).2, world.2)) := rfl

theorem runAt_beside_mutate (order : Mutation) (world : Memory × σ) :
    (beside.mutate order).runAt world =
      (((repository.mutate order).runAt world.1).1,
        (((repository.mutate order).runAt world.1).2, world.2)) := rfl

/-- A question fails, or it is answered from what is known; either way it changes nothing. -/
theorem runAt_query_cases (question : Query) (memory : Memory) :
    (∃ fault, (repository.query question).runAt memory =
        (.error fault, memory.put (.query question))) ∨
      (repository.query question).runAt memory =
        (.ok (memory.knowledge.answer question), memory.put (.query question)) := by
  rcases runAt_call_cases (.query question) memory with ⟨fault, h⟩ | h
  · exact .inl ⟨fault, Attempt.runAt_bind_of_error h⟩
  · refine .inr ((Attempt.runAt_bind_of_ok h).trans ?_)
    rw [← answer_put memory (.query question)]
    rfl

/-- An order fails and changes nothing, or it is carried out. -/
theorem runAt_mutate_cases (order : Mutation) (memory : Memory) :
    (∃ fault, (repository.mutate order).runAt memory =
        (.error fault, memory.put (.mutation order))) ∨
      (repository.mutate order).runAt memory =
        (.ok (memory.knowledge.result order), (memory.put (.mutation order)).after order) := by
  rcases runAt_call_cases (.mutation order) memory with ⟨fault, h⟩ | h
  · exact .inl ⟨fault, Attempt.runAt_bind_of_error h⟩
  · refine .inr ((Attempt.runAt_bind_of_ok h).trans ?_)
    rw [← result_put memory (.mutation order)]
    rfl

end Memory

namespace Event

variable {client : Client σ} {event : Event} {events : List Event} {world next last : Memory × σ}

/-- What a call gives back goes with what the repository knows, and it changes that as it should. -/
theorem Takes.plays (h : event.Takes client.beside Memory.beside world next) :
    world.1.knowledge.Admits event ∧
      next.1.knowledge = world.1.knowledge.afterEvent event := by
  cases event with
  | header url outcome =>
    cases h
    exact ⟨trivial, rfl⟩
  | patch url outcome =>
    cases h
    exact ⟨trivial, rfl⟩
  | release file =>
    cases h
    exact ⟨trivial, rfl⟩
  | query question outcome =>
    rw [Takes, Memory.runAt_beside_query] at h
    rcases Memory.runAt_query_cases question world.1 with ⟨fault, hr⟩ | hr
    · rw [hr] at h
      cases h
      exact ⟨trivial, rfl⟩
    · rw [hr] at h
      cases h
      exact ⟨rfl, rfl⟩
  | mutation order outcome =>
    rw [Takes, Memory.runAt_beside_mutate] at h
    rcases Memory.runAt_mutate_cases order world.1 with ⟨fault, hr⟩ | hr
    · rw [hr] at h
      cases h
      exact ⟨trivial, rfl⟩
    · rw [hr] at h
      cases h
      exact ⟨rfl, Memory.knowledge_after_put world.1 _ order⟩

/-- A call that neither asks a network nor releases a file leaves the client's part as it is. -/
theorem Takes.outside_eq (h : event.Takes client.beside Memory.beside world next)
    (he : event.actsOutside = false) : next.2 = world.2 := by
  cases event with
  | header | patch | release => cases he
  | query question outcome =>
    rw [Takes, Memory.runAt_beside_query] at h
    cases h
    rfl
  | mutation order outcome =>
    rw [Takes, Memory.runAt_beside_mutate] at h
    cases h
    rfl

/-- The calls of a run make of what the repository knows what it knows after the run. -/
theorem Path.plays (h : Path client.beside Memory.beside world events last) :
    world.1.knowledge.Plays events last.1.knowledge := by
  induction h with
  | nil => rfl
  | cons first _ ih =>
    obtain ⟨ha, hk⟩ := first.plays
    exact ⟨ha, hk ▸ ih⟩

/-- Without a call to the network or for a file the client's part stays as it is. -/
theorem Path.outside_eq (h : Path client.beside Memory.beside world events last)
    (he : ∀ event ∈ events, event.actsOutside = false) : last.2 = world.2 :=
  h.induction (fun event hm _ _ ht hw => (ht.outside_eq (he event hm)).trans hw) rfl

end Event

namespace Memory.Plays

variable {memory middle last : Memory} {front rest events : List Event}

theorem append_iff :
    memory.Plays (front ++ rest) last ↔
      ∃ middle, memory.Plays front middle ∧ middle.Plays rest last := by
  induction front generalizing memory with
  | nil => simp [Plays]
  | cons event front ih => simp only [List.cons_append, Plays, ih, and_assoc, exists_and_left]

/-- Without an order nothing becomes known and nothing is forgotten. -/
theorem eq_of_quiet (h : memory.Plays events last) (hq : Event.Quiet events) : last = memory := by
  induction events generalizing memory with
  | nil => exact h
  | cons event events ih =>
    have hsame : memory.afterEvent event = memory := by
      cases event with
      | mutation => exact nomatch hq _ List.mem_cons_self
      | header | patch | release | query => rfl
    exact hsame ▸ ih h.2 fun other ho => hq other (List.mem_cons_of_mem _ ho)

end Memory.Plays

end Webrev
