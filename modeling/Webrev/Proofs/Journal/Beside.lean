import Webrev.Proofs.Http.Retrieval
import Webrev.Proofs.Journal.Event

/-!
# A repository beside a network

Any repository whatsoever stands beside a session with a network. Neither touches the other: the
calls to the repository leave the session as it is, and of the calls to the network only those for a
patch touch the temporary files.

## Main definitions

* `Repository.first`, `Client.second` : a repository and a client, side by side.
* `Event.looks` : a call that neither handles a file nor gives an order.

## Main results

* `Event.Path.second_eq` : without a call to the client its part stays as it is.
* `Event.Path.spool_eq` : looking touches no file.
* `Event.Takes.patch_cases` : what a call for a patch does to the files.
-/

namespace Webrev

variable {ρ σ : Type}

/-- A repository, in the first part of a world. -/
def Repository.first (repository : Repository ρ) : Repository (ρ × σ) :=
  repository.zoom Prod.fst fun known world => (known, world.2)

/-- A client, in the second part of a world. -/
def Client.second (client : Client σ) : Client (ρ × σ) :=
  client.zoom Prod.snd fun outside world => (world.1, outside)

namespace Event

/-- The call neither handles a file nor gives an order. -/
def looks : Event → Bool
  | .header .. | .query .. => true
  | .patch .. | .release _ | .mutation .. => false

variable {event : Event} {events : List Event}

section Client

variable {client : Client σ} {repository : Repository ρ} {world next last : ρ × σ}

/-- A call that is not one to the client leaves its part as it is. -/
theorem Takes.second_eq (h : event.Takes client.second repository.first world next)
    (he : event.actsOutside = false) : next.2 = world.2 := by
  cases event with
  | header | patch | release => cases he
  | query question outcome =>
    have hzoom : ((repository.first (σ := σ)).query question).runAt world = (outcome, next) := h
    rw [Repository.first, Repository.zoom, Attempt.runAt_zoom] at hzoom
    exact (congrArg (·.2.2) hzoom).symm
  | mutation order outcome =>
    have hzoom : ((repository.first (σ := σ)).mutate order).runAt world = (outcome, next) := h
    rw [Repository.first, Repository.zoom, Attempt.runAt_zoom] at hzoom
    exact (congrArg (·.2.2) hzoom).symm

/-- Without a call to the client its part stays as it is. -/
theorem Path.second_eq (h : Path client.second repository.first world events last)
    (he : ∀ event ∈ events, event.actsOutside = false) : last.2 = world.2 :=
  h.induction (fun event hm _ _ ht hw => (ht.second_eq (he event hm)).trans hw) rfl

end Client

section Session

variable {agent : String} {repository : Repository ρ} {world next last : ρ × Http.Session}

theorem Takes.spool_eq
    (h : event.Takes (Http.client agent).second repository.first world next)
    (he : event.looks = true) : next.2.spool = world.2.spool := by
  cases event with
  | patch | release | mutation => cases he
  | query question outcome => exact congrArg Http.Session.spool (h.second_eq rfl)
  | header url outcome =>
    have hfetch : ((Http.client agent).second.fetchHeader url).runAt world = (outcome, next) := h
    rw [← Http.spool_fetchHeader agent url world.2]
    exact (congrArg (·.2.2.spool) hfetch).symm

/-- Looking touches no file. -/
theorem Path.spool_eq
    (h : Path (Http.client agent).second repository.first world events last)
    (he : ∀ event ∈ events, event.looks = true) : last.2.spool = world.2.spool :=
  h.induction (fun event hm _ _ ht hw => (ht.spool_eq (he event hm)).trans hw) rfl

/-- A call for a patch puts the whole body of a response into a fresh file, or it fails and leaves
no file. -/
theorem Takes.patch_cases {url : Url} {got : Except AccessError PatchFile}
    (h : (Event.patch url got).Takes (Http.client agent).second repository.first world next) :
    (∃ response file, world.2.Obtains agent url response ∧ response.isBroken = false ∧
        world.2.spool.Stores response.bodyChunks ∧ got = .ok file ∧
        file.contents = response.bodyChunks.flatten ∧
        world.2.spool.Adds file.path file.contents next.2.spool) ∨
      ∃ fault, got = .error (.retrieval url.text fault) ∧
        next.2.spool.files = world.2.spool.files ∧ world.2.Withholds agent url := by
  have hfetch : ((Http.client agent).second.fetchPatch url).runAt world = (got, next) := h
  have hgot : got = ((Http.fetchPatch agent url).runAt world.2).1 :=
    (congrArg Prod.fst hfetch).symm
  have hnext : next.2 = ((Http.fetchPatch agent url).runAt world.2).2 :=
    (congrArg (·.2.2) hfetch).symm
  rw [hgot, hnext]
  exact Http.fetchPatch_cases agent url world.2

/-- A file that is released is taken away, and no other. -/
theorem Takes.spool_release {file : PatchFile}
    (h : (Event.release file).Takes (Http.client agent).second repository.first world next) :
    next.2.spool = world.2.spool.remove file.path := by
  have hrelease : ((Http.client agent).second.release file).run world = ((), next) := h
  exact (congrArg (·.2.2.spool) hrelease).symm

end Session

end Event

end Webrev
