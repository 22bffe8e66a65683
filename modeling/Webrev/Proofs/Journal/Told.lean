import Webrev.Proofs.Journal.Event

/-!
# Journals

A client and a repository can put down every call that is made on them. Nothing else changes: a run
on them has the outcome that it has without the journal, and leaves the same world. What is put down
is therefore what the run without the journal does, and the journal of a run is its observation.

Steps are told from their parts. The account of a step says which outcomes it can have, each with
the calls that lead to it, and knows neither worlds nor answers that did not occur.

## Main definitions

* `Journal` : a world with the calls so far.
* `Client.journaled`, `Repository.journaled` : whoever puts down the calls made on them.
* `Told` : a step with a journal does what the step does, and both are as an account says.

## Main results

* `Told.bind`, `Told.mk_bind`, `Told.mapError` : composed steps are told from their parts.
* `Told.call_bind` : a call, and what is done with what it gives back.
* `Told.run` : the journal of a run that starts with none.
-/

namespace Webrev

/-- A world with the calls so far. -/
structure Journal (ω : Type) where
  world : ω
  events : List Event

variable {ω ε ε' α β : Type}

namespace Journal

/-- The journal with one more call, and the world that the call leaves. -/
def put (journal : Journal ω) (event : Event) (world : ω) : Journal ω :=
  ⟨world, journal.events ++ [event]⟩

/-- A call that is put down. -/
def call (event : Except ε α → Event) (step : Attempt ω ε α) : Attempt (Journal ω) ε α :=
  ExceptT.mk fun journal =>
    let (outcome, world) := step.runAt journal.world
    (outcome, journal.put (event outcome) world)

end Journal

/-- The client that puts down the calls made on it. -/
def Client.journaled (client : Client ω) : Client (Journal ω) where
  fetchHeader url := Journal.call (.header url) (client.fetchHeader url)
  fetchPatch url := Journal.call (.patch url) (client.fetchPatch url)
  release file := fun journal =>
    ((), journal.put (.release file) (client.release file journal.world).2)

/-- The repository that puts down the calls made on it. -/
def Repository.journaled (repository : Repository ω) : Repository (Journal ω) where
  query question := Journal.call (.query question) (repository.query question)
  mutate order := Journal.call (.mutation order) (repository.mutate order)

/-- The step with a journal has the outcome of the step and leaves the same world. It puts down the
calls that lead to that world, and these and the outcome are as the account says. -/
def Told (client : Client ω) (repository : Repository ω) (told : Attempt (Journal ω) ε α)
    (step : Attempt ω ε α) (account : Except ε α → List Event → Prop) : Prop :=
  ∀ journal : Journal ω, ∃ outcome world events,
    step.runAt journal.world = (outcome, world) ∧
    told.runAt journal = (outcome, ⟨world, journal.events ++ events⟩) ∧
    Event.Path client repository journal.world events world ∧ account outcome events

namespace Told

variable {client : Client ω} {repository : Repository ω} {told : Attempt (Journal ω) ε α}
  {step : Attempt ω ε α} {account : Except ε α → List Event → Prop}

theorem mono {account' : Except ε α → List Event → Prop}
    (h : Told client repository told step account)
    (ha : ∀ outcome events, account outcome events → account' outcome events) :
    Told client repository told step account' := by
  intro journal
  obtain ⟨outcome, world, events, hs, ht, hp, hc⟩ := h journal
  exact ⟨outcome, world, events, hs, ht, hp, ha outcome events hc⟩

theorem pure {a : α} (h : account (.ok a) []) :
    Told client repository (Pure.pure a) (Pure.pure a) account :=
  fun journal => ⟨.ok a, journal.world, [], rfl, by simp, .nil _, h⟩

theorem throw {e : ε} (h : account (.error e) []) :
    Told client repository (MonadExcept.throw e) (MonadExcept.throw e) account :=
  fun journal => ⟨.error e, journal.world, [], rfl, by simp, .nil _, h⟩

theorem ofExcept {outcome : Except ε α} (h : account outcome []) :
    Told client repository (Attempt.ofExcept outcome) (Attempt.ofExcept outcome) account :=
  fun journal => ⟨outcome, journal.world, [], rfl, by simp, .nil _, h⟩

/-- A failure that is told in other words. -/
theorem mapError {f : ε → ε'} (h : Told client repository told step account) :
    Told client repository (told.mapError f) (step.mapError f)
      fun outcome events => ∃ inner, outcome = inner.mapError f ∧ account inner events := by
  intro journal
  obtain ⟨outcome, world, events, hs, ht, hp, ha⟩ := h journal
  exact ⟨outcome.mapError f, world, events, by rw [Attempt.runAt_mapError, hs],
    by rw [Attempt.runAt_mapError, ht], hp, outcome, rfl, ha⟩

/-- A step after another. -/
theorem bind {next : α → Attempt ω ε β} {nextTold : α → Attempt (Journal ω) ε β}
    {account' : Except ε β → List Event → Prop} (h : Told client repository told step account)
    (herror : ∀ e events, account (.error e) events → account' (.error e) events)
    (hok : ∀ a events, account (.ok a) events → Told client repository (nextTold a) (next a)
      fun outcome rest => account' outcome (events ++ rest)) :
    Told client repository (told >>= nextTold) (step >>= next) account' := by
  intro journal
  obtain ⟨outcome, world, events, hs, ht, hp, ha⟩ := h journal
  cases outcome with
  | error e =>
    exact ⟨.error e, world, events, Attempt.runAt_bind_of_error hs, Attempt.runAt_bind_of_error ht,
      hp, herror e events ha⟩
  | ok a =>
    obtain ⟨last, world', rest, hs', ht', hp', ha'⟩ :=
      hok a events ha ⟨world, journal.events ++ events⟩
    refine ⟨last, world', events ++ rest, (Attempt.runAt_bind_of_ok hs).trans hs', ?_,
      hp.append hp', ha'⟩
    rw [Attempt.runAt_bind_of_ok ht, ht', List.append_assoc]

/-- What is done with the outcome of a step, be it a failure. -/
theorem mk_bind {next : Except ε α → StateM ω (Except ε' β)}
    {nextTold : Except ε α → StateM (Journal ω) (Except ε' β)}
    {account' : Except ε' β → List Event → Prop} (h : Told client repository told step account)
    (hn : ∀ outcome events, account outcome events →
      Told client repository (ExceptT.mk (nextTold outcome)) (ExceptT.mk (next outcome))
        fun last rest => account' last (events ++ rest)) :
    Told client repository (ExceptT.mk (told.run >>= nextTold)) (ExceptT.mk (step.run >>= next))
      account' := by
  intro journal
  obtain ⟨outcome, world, events, hs, ht, hp, ha⟩ := h journal
  obtain ⟨last, world', rest, hs', ht', hp', ha'⟩ :=
    hn outcome events ha ⟨world, journal.events ++ events⟩
  refine ⟨last, world', events ++ rest, ?_, ?_, hp.append hp', ha'⟩
  · rw [Attempt.runAt_mk_bind, hs]
    exact hs'
  · rw [Attempt.runAt_mk_bind, ht, ht', List.append_assoc]

/-- A file is released and the outcome stays as it is. -/
theorem release (file : PatchFile) {outcome : Except ε α} (h : account outcome [.release file]) :
    Told client repository
      (ExceptT.mk do client.journaled.release file; return outcome)
      (ExceptT.mk do client.release file; return outcome) account :=
  fun journal => ⟨outcome, (client.release file journal.world).2, [.release file], rfl, rfl,
    .single rfl, h⟩

/-- A call that is put down. -/
theorem call {event : Except ε α → Event}
    (h : ∀ world, (event (step.runAt world).1).Takes client repository world (step.runAt world).2) :
    Told client repository (Journal.call event step) step
      fun outcome events => events = [event outcome] :=
  fun journal => ⟨(step.runAt journal.world).1, (step.runAt journal.world).2, _, rfl, rfl,
    .single (h journal.world), rfl⟩

theorem fetchHeader (url : Url) :
    Told client repository (client.journaled.fetchHeader url) (client.fetchHeader url)
      fun outcome events => events = [.header url outcome] :=
  call fun _ => rfl

theorem fetchPatch (url : Url) :
    Told client repository (client.journaled.fetchPatch url) (client.fetchPatch url)
      fun outcome events => events = [.patch url outcome] :=
  call fun _ => rfl

theorem query (question : Query) :
    Told client repository (repository.journaled.query question) (repository.query question)
      fun outcome events => events = [.query question outcome] :=
  call fun _ => rfl

theorem mutate (order : Mutation) :
    Told client repository (repository.journaled.mutate order) (repository.mutate order)
      fun outcome events => events = [.mutation order outcome] :=
  call fun _ => rfl

/-- A call whose failure is told in other words, and what is done with what it gives back. -/
theorem call_bind {f : ε → ε'} {event : Except ε α → Event} {next : α → Attempt ω ε' β}
    {nextTold : α → Attempt (Journal ω) ε' β} {account' : Except ε' β → List Event → Prop}
    (h : Told client repository told step fun outcome events => events = [event outcome])
    (herror : ∀ e, account' (.error (f e)) [event (.error e)])
    (hok : ∀ a, Told client repository (nextTold a) (next a)
      fun outcome rest => account' outcome (event (.ok a) :: rest)) :
    Told client repository (told.mapError f >>= nextTold) (step.mapError f >>= next) account' := by
  refine h.mapError.bind ?_ ?_
  · rintro e events ⟨_ | a, he, rfl⟩
    · cases he
      exact herror _
    · cases he
  · rintro a events ⟨_ | b, he, rfl⟩
    · cases he
    · cases he
      exact hok a

/-- The journal of a run that starts with none. -/
theorem run (h : Told client repository told step account) (world : ω) :
    (told.runAt ⟨world, []⟩).1 = (step.runAt world).1 ∧
      (told.runAt ⟨world, []⟩).2.world = (step.runAt world).2 ∧
      Event.Path client repository world (told.runAt ⟨world, []⟩).2.events (step.runAt world).2 ∧
      account (step.runAt world).1 (told.runAt ⟨world, []⟩).2.events := by
  obtain ⟨outcome, last, events, hs, ht, hp, ha⟩ := h ⟨world, []⟩
  rw [ht, show step.runAt world = (outcome, last) from hs]
  exact ⟨rfl, rfl, hp, ha⟩

end Told

end Webrev
