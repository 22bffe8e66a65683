import Webrev.Proofs.Attempt
import Webrev.Repository.Basic
import Mathlib.Data.List.Basic

/-!
# Calls and the worlds between them

What a run asks of a client and of a repository is a sequence of calls. A call with what it gave
back is an event. Events lead from one world to another when each of them is what the client or the
repository does in the world that the one before it left.

## Main definitions

* `Event` : a call with what it gave back.
* `Event.Quiet` : events without an order.
* `Event.Takes` : an event that leads from one world to another.
* `Event.Path` : events that lead from one world to another, one after the other.

## Main results

* `Event.Path.append` : paths are joined.
* `Event.Path.induction` : what every event of a path preserves, the path preserves.
-/

namespace Webrev

/-- A call to a client or a repository with what it gave back. -/
inductive Event where
  | header (url : Url) (outcome : Except AccessError Page.Header)
  | patch (url : Url) (outcome : Except AccessError PatchFile)
  | release (file : PatchFile)
  | query (question : Query) (outcome : Except RepositoryError question.Answer)
  | mutation (order : Mutation) (outcome : Except RepositoryError order.Answer)

namespace Event

/-- The call told a repository to do something. -/
def isMutation : Event → Bool
  | .mutation .. => true
  | _ => false

/-- The call asked a repository something. -/
def isQuery : Event → Bool
  | .query .. => true
  | _ => false

/-- The call asked a network for something. -/
def isRequest : Event → Bool
  | .header .. | .patch .. => true
  | _ => false

theorem isRequest_eq_false_of_isQuery {event : Event} (h : event.isQuery) :
    event.isRequest = false := by
  cases event with
  | query => rfl
  | header | patch | release | mutation => exact nomatch h

theorem isRequest_eq_false_of_isMutation {event : Event} (h : event.isMutation) :
    event.isRequest = false := by
  cases event with
  | mutation => rfl
  | header | patch | release | query => exact nomatch h

/-- The call was one to a client. -/
def actsOutside : Event → Bool
  | .header .. | .patch .. | .release _ => true
  | _ => false

/-- The order that a call gave, if it gave one. -/
def order? : Event → Option Mutation
  | .mutation order _ => some order
  | _ => none

/-- The call is one of those that take changes back. -/
def undoes (event : Event) : Bool :=
  match event.order? with
  | some .discardChanges | some (.deleteBranch _) => true
  | _ => false

theorem order?_ne_of_undoes {event : Event} {order : Mutation} (h : event.undoes = false)
    (ho : ∀ outcome, (mutation order outcome).undoes = true) : event.order? ≠ some order := by
  cases event with
  | header | patch | release | query => exact nofun
  | mutation other outcome =>
    rintro ⟨⟩
    exact nomatch h.symm.trans (ho outcome)

/-- The call did what it was to do. -/
def succeeded : Event → Bool
  | .header _ outcome => outcome.isOk
  | .patch _ outcome => outcome.isOk
  | .release _ => true
  | .query _ outcome => outcome.isOk
  | .mutation _ outcome => outcome.isOk

/-- The calls give no order. -/
def Quiet (events : List Event) : Prop := ∀ event ∈ events, event.isMutation = false

namespace Quiet

theorem nil : Quiet [] := fun _ h => nomatch h

theorem cons {event : Event} {events : List Event} (he : event.isMutation = false)
    (h : Quiet events) : Quiet (event :: events) := by
  rintro other (_ | ⟨_, ho⟩)
  · exact he
  · exact h other ho

theorem append {front rest : List Event} (hf : Quiet front) (hr : Quiet rest) :
    Quiet (front ++ rest) := by
  intro event he
  rcases List.mem_append.mp he with he | he
  · exact hf event he
  · exact hr event he

theorem of_isQuery {events : List Event} (h : ∀ event ∈ events, event.isQuery) : Quiet events := by
  intro event he
  cases event with
  | query => rfl
  | header | patch | release | mutation => exact nomatch h _ he

theorem undoes_eq_false {events : List Event} (h : Quiet events) :
    ∀ event ∈ events, event.undoes = false := by
  intro event he
  cases event with
  | mutation => exact nomatch h _ he
  | header | patch | release | query => rfl

/-- Events with one order are cut at it in one way. -/
theorem split_eq {front rest before after : List Event} {first second : Event} (hf : Quiet front)
    (hr : Quiet rest) (hs : second.isMutation)
    (h : front ++ first :: rest = before ++ second :: after) :
    front = before ∧ first = second ∧ rest = after :=
  (List.append_cons_inj_of_notMem (fun hm => nomatch hs.symm.trans (hf _ hm))
    fun hm => nomatch hs.symm.trans (hr _ hm)).mp h

end Quiet

variable {ω : Type} (client : Client ω) (repository : Repository ω)

/-- The event is what the client or the repository does in one world, and it leaves the other. -/
def Takes : Event → ω → ω → Prop
  | .header url outcome, world, next => (client.fetchHeader url).runAt world = (outcome, next)
  | .patch url outcome, world, next => (client.fetchPatch url).runAt world = (outcome, next)
  | .release file, world, next => (client.release file).run world = ((), next)
  | .query question outcome, world, next =>
    (repository.query question).runAt world = (outcome, next)
  | .mutation order outcome, world, next => (repository.mutate order).runAt world = (outcome, next)

/-- The events lead from one world to the other, one after the other. -/
inductive Path : ω → List Event → ω → Prop
  | nil (world : ω) : Path world [] world
  | cons {world next last : ω} {event : Event} {events : List Event}
      (first : event.Takes client repository world next) (rest : Path next events last) :
      Path world (event :: events) last

namespace Path

variable {client : Client ω} {repository : Repository ω}

theorem single {event : Event} {world last : ω} (h : event.Takes client repository world last) :
    Path client repository world [event] last :=
  .cons h (.nil last)

/-- Paths are joined. -/
theorem append {world middle last : ω} {front rest : List Event}
    (hf : Path client repository world front middle)
    (hr : Path client repository middle rest last) :
    Path client repository world (front ++ rest) last := by
  induction hf with
  | nil => exact hr
  | cons first _ ih => exact .cons first (ih hr)

/-- A path is cut at any of its events. -/
theorem split {world last : ω} {front rest : List Event}
    (h : Path client repository world (front ++ rest) last) :
    ∃ middle, Path client repository world front middle ∧
      Path client repository middle rest last := by
  -- The world in which the rest begins is the one that the last event of the front leaves.
  induction front generalizing world with
  | nil => exact ⟨world, .nil world, h⟩
  | cons event front ih =>
    cases h with
    | cons first rest =>
      obtain ⟨middle, hf, hr⟩ := ih rest
      exact ⟨middle, .cons first hf, hr⟩

/-- What every event of a path preserves, the path preserves. -/
theorem induction {P : ω → Prop} {world last : ω} {events : List Event}
    (h : Path client repository world events last)
    (hP : ∀ event ∈ events, ∀ w w', event.Takes client repository w w' → P w → P w')
    (hw : P world) : P last := by
  induction h with
  | nil => exact hw
  | cons first _ ih =>
    exact ih (fun event he => hP event (List.mem_cons_of_mem _ he))
      (hP _ List.mem_cons_self _ _ first hw)

end Path

end Event

end Webrev
