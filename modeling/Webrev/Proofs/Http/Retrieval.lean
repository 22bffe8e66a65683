import Webrev.Proofs.Http.Storage

/-!
# Retrievals

What a client that asks a network brings back. Both kinds of retrieval need a response whose status
says that it is a success. A page is then read as far as its table goes, and a patch is kept whole:
it is the body up to its end, and there is none when the connection breaks before that or the body
cannot be stored.

## Main definitions

* `Http.Session.Obtains` : the successful response that a session gets from a URL.
* `Http.Session.Withholds` : a session that brings no patch from a URL.

## Main results

* `Http.runAt_fetchHeader_of_obtains` : the table of a page.
* `Http.exists_obtains_of_fetchHeader_ok`, `Http.exists_obtains_of_fetchPatch_ok` : the responses
  behind a table and behind a patch.
* `Http.fetchPatch_cases` : a patch is had whole, in a fresh file, or there is no file of it.
-/

namespace Webrev.Http

variable {agent : String} {url : Url} {session last : Session}

/-- The final response that a session gets from a URL, a success. -/
def Session.Obtains (session : Session) (agent : String) (url : Url) (response : Response) : Prop :=
  (session.network.get agent url).1 = some response ∧ response.status.isSuccess = true

/-- The outcome of a request, by the final response. -/
theorem runAt_fetch (agent : String) (url : Url) (session : Session) :
    (fetch agent url).runAt session =
      (match (session.network.get agent url).1 with
        | none => .error .transport
        | some response =>
          if response.status.isSuccess then .ok response else .error (.status response.status),
        { session with network := (session.network.get agent url).2 }) := rfl

/-- A response that is obtained is the outcome of the request. -/
theorem runAt_fetch_of_obtains {response : Response} (h : session.Obtains agent url response) :
    (fetch agent url).runAt session =
      (.ok response, { session with network := (session.network.get agent url).2 }) := by
  rw [runAt_fetch, h.1]
  simp only [h.2, ↓reduceIte]

/-- The outcome of a request that does not fail is a response that is obtained. -/
theorem obtains_of_fetch_ok {response : Response}
    (h : (fetch agent url).runAt session = (.ok response, last)) :
    session.Obtains agent url response := by
  rw [runAt_fetch] at h
  cases hr : (session.network.get agent url).1 with
  | none => simp only [hr, Prod.mk.injEq, reduceCtorEq, false_and] at h
  | some other =>
    simp only [hr, Prod.mk.injEq] at h
    split at h
    · next hs =>
      cases h.1
      exact ⟨hr, hs⟩
    · exact nomatch h.1

/-- The session after one more visit. -/
def Session.visit (session : Session) (visit : Visit) : Session :=
  { session with visits := session.visits ++ [visit] }

theorem obtains_visit {response : Response} {visit : Visit} :
    (session.visit visit).Obtains agent url response ↔ session.Obtains agent url response :=
  Iff.rfl

theorem runAt_fetchHeader (agent : String) (url : Url) (session : Session) :
    (fetchHeader agent url).runAt session =
      (Attempt.mapError (.retrieval url.text) do
        let response ← fetch agent url
        Attempt.ofExcept (readHeader response)).runAt (session.visit (.header url)) := rfl

theorem runAt_fetchPatch (agent : String) (url : Url) (session : Session) :
    (fetchPatch agent url).runAt session =
      (Attempt.mapError (.retrieval url.text) do
        let response ← fetch agent url
        store response).runAt (session.visit (.patch url)) := rfl

/-- The table of a page, by the response. -/
theorem runAt_fetchHeader_of_obtains {response : Response}
    (h : session.Obtains agent url response) :
    ((fetchHeader agent url).runAt session).1 =
      (readHeader response).mapError (.retrieval url.text) := by
  rw [runAt_fetchHeader, Attempt.runAt_mapError,
    Attempt.runAt_bind_of_ok (runAt_fetch_of_obtains (obtains_visit.mpr h)), Attempt.runAt_ofExcept]

/-- Behind a table there is a response that was read to the end of the table. -/
theorem exists_obtains_of_fetchHeader_ok {header : Page.Header}
    (h : ((fetchHeader agent url).runAt session).1 = .ok header) :
    ∃ response, session.Obtains agent url response ∧ readHeader response = .ok header := by
  have hrun : (fetchHeader agent url).runAt session = (.ok header, _) := Prod.ext h rfl
  rw [runAt_fetchHeader] at hrun
  obtain ⟨response, middle, hf, hr⟩ :=
    Attempt.exists_of_runAt_bind_ok (Attempt.runAt_of_runAt_mapError_ok hrun)
  exact ⟨response, obtains_visit.mp (obtains_of_fetch_ok hf), congrArg Prod.fst hr⟩

/-! ### Files -/

/-- A session that brings no patch from a URL: no successful response comes, or the connection
breaks, or the body cannot be stored. -/
def Session.Withholds (session : Session) (agent : String) (url : Url) : Prop :=
  ∀ response, session.Obtains agent url response →
    response.isBroken = true ∨ ¬session.spool.Stores response.bodyChunks

theorem runAt_store (response : Response) (session : Session) :
    (store response).runAt session =
      (((writeBody response).runAt session.spool).1,
        { session with spool := ((writeBody response).runAt session.spool).2 }) := rfl

/-- A request touches no file. -/
theorem spool_of_fetch {outcome : Except RetrievalFault Response}
    (h : (fetch agent url).runAt session = (outcome, last)) : last.spool = session.spool := by
  rw [runAt_fetch] at h
  exact (congrArg (·.2.spool) h).symm

/-- Reading a page touches no file. -/
theorem spool_fetchHeader (agent : String) (url : Url) (session : Session) :
    ((fetchHeader agent url).runAt session).2.spool = session.spool := by
  rw [runAt_fetchHeader, Attempt.runAt_mapError]
  rcases hf : (fetch agent url).runAt (session.visit (.header url)) with ⟨fault | response, middle⟩
  · rw [Attempt.runAt_bind_of_error hf]
    exact (spool_of_fetch hf).trans rfl
  · rw [Attempt.runAt_bind_of_ok hf]
    exact (spool_of_fetch hf).trans rfl

/-- A patch is had whole, in a fresh file, or there is no file of it. -/
theorem fetchPatch_cases (agent : String) (url : Url) (session : Session) :
    (∃ response file, session.Obtains agent url response ∧ response.isBroken = false ∧
        session.spool.Stores response.bodyChunks ∧
        ((fetchPatch agent url).runAt session).1 = .ok file ∧
        file.contents = response.bodyChunks.flatten ∧
        session.spool.Adds file.path file.contents
          ((fetchPatch agent url).runAt session).2.spool) ∨
      ∃ fault, ((fetchPatch agent url).runAt session).1 = .error (.retrieval url.text fault) ∧
        ((fetchPatch agent url).runAt session).2.spool.files = session.spool.files ∧
        session.Withholds agent url := by
  rw [runAt_fetchPatch, Attempt.runAt_mapError]
  rcases hf : (fetch agent url).runAt (session.visit (.patch url)) with ⟨fault | response, middle⟩
  · rw [Attempt.runAt_bind_of_error hf]
    have hspool : middle.spool = session.spool := (spool_of_fetch hf).trans rfl
    refine .inr ⟨fault, rfl, congrArg Spool.files hspool, fun response hobtains => ?_⟩
    rw [runAt_fetch_of_obtains (obtains_visit.mpr hobtains)] at hf
    exact nomatch congrArg Prod.fst hf
  · rw [Attempt.runAt_bind_of_ok hf, runAt_store]
    have hobtains := obtains_visit.mp (obtains_of_fetch_ok hf)
    have hspool : middle.spool = session.spool := (spool_of_fetch hf).trans rfl
    rw [hspool]
    rcases writeBody_cases response session.spool with
      ⟨file, hfile, hcontents, hadds, hb, hstores⟩ | ⟨fault, herror, hfiles, hwhy⟩
    · rw [hfile]
      exact .inl ⟨response, file, hobtains, hb, hstores, rfl, hcontents, hadds⟩
    · rw [herror]
      refine .inr ⟨fault, rfl, hfiles, fun other hother => ?_⟩
      cases Option.some.inj (hobtains.1.symm.trans hother.1)
      exact hwhy.imp And.right And.right

/-- Behind a patch there is a response whose body is the patch, and has an end. -/
theorem exists_obtains_of_fetchPatch_ok {file : PatchFile}
    (h : ((fetchPatch agent url).runAt session).1 = .ok file) :
    ∃ response, session.Obtains agent url response ∧ response.isBroken = false ∧
      file.contents = response.bodyChunks.flatten := by
  rcases fetchPatch_cases agent url session with
    ⟨response, made, hobtains, hb, -, hf, hcontents, -⟩ | ⟨fault, hf, -⟩
  · cases hf.symm.trans h
    exact ⟨response, hobtains, hb, hcontents⟩
  · exact nomatch hf.symm.trans h

end Webrev.Http
