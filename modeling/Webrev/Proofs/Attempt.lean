import Webrev.Client

/-!
# Runs of steps

A step that may fail is run from a world: it has an outcome and leaves a world. This file says how
the runs of composed steps come from those of their parts.

## Main definitions

* `Attempt.runAt` : the outcome of a step from a world, and the world that it leaves.
* `Attempt.Keeps` : what a step leaves as it is.
* `Part` : a part of a world.

## Main results

* `Attempt.runAt_bind_of_ok`, `Attempt.runAt_bind_of_error` : after a failure nothing more is done.
* `Attempt.runAt_mk_bind` : a failure may be followed by something else.
* `Attempt.runAt_mapError` : telling a failure in other words changes no world.
* `Attempt.mapError_bind` : failures are told in other words step by step.
* `Attempt.zoom_bind` : steps on a part of a world are composed there.
-/

namespace Webrev

/-- A part of a world, which is seen and set independently of the rest. -/
structure Part (ω ω' : Type) where
  get : ω → ω'
  set : ω' → ω → ω
  get_set : ∀ part world, get (set part world) = part
  set_get : ∀ world, set (get world) world = world
  set_set : ∀ part part' world, set part (set part' world) = set part world

namespace Attempt

variable {ω ε ε' α β : Type}

/-- The outcome of a step from a world, and the world that it leaves. -/
def runAt (step : Attempt ω ε α) (world : ω) : Except ε α × ω := step.run world

@[simp]
theorem runAt_pure (a : α) (world : ω) :
    runAt (pure a : Attempt ω ε α) world = (.ok a, world) := rfl

@[simp]
theorem runAt_throw (e : ε) (world : ω) :
    runAt (throw e : Attempt ω ε α) world = (.error e, world) := rfl

@[simp]
theorem runAt_ofExcept (outcome : Except ε α) (world : ω) :
    runAt (ofExcept outcome) world = (outcome, world) := rfl

theorem runAt_bind_of_ok {step : Attempt ω ε α} {next : α → Attempt ω ε β} {world world' : ω}
    {a : α} (h : step.runAt world = (.ok a, world')) :
    runAt (step >>= next) world = (next a).runAt world' := by
  change (match step.runAt world with
    | (outcome, last) => (ExceptT.bindCont next outcome).run last) = _
  rw [h]
  rfl

/-- After a failure nothing more is done. -/
theorem runAt_bind_of_error {step : Attempt ω ε α} {next : α → Attempt ω ε β} {world world' : ω}
    {e : ε} (h : step.runAt world = (.error e, world')) :
    runAt (step >>= next) world = (.error e, world') := by
  change (match step.runAt world with
    | (outcome, last) => (ExceptT.bindCont next outcome).run last) = _
  rw [h]
  rfl

/-- The outcome of a step, told in another way. -/
theorem runAt_map (f : α → β) (step : Attempt ω ε α) (world : ω) :
    runAt (f <$> step) world = ((step.runAt world).1.map f, (step.runAt world).2) := by
  rw [map_eq_pure_bind]
  rcases hs : step.runAt world with ⟨e | a, last⟩
  · exact runAt_bind_of_error hs
  · exact runAt_bind_of_ok hs

/-- What is done after a step succeeds only when the step does. -/
theorem exists_of_runAt_bind_ok {step : Attempt ω ε α} {next : α → Attempt ω ε β}
    {world last : ω} {b : β} (h : runAt (step >>= next) world = (.ok b, last)) :
    ∃ a world', step.runAt world = (.ok a, world') ∧ (next a).runAt world' = (.ok b, last) := by
  rcases hs : step.runAt world with ⟨e | a, world'⟩
  · exact nomatch congrArg Prod.fst ((runAt_bind_of_error hs).symm.trans h)
  · exact ⟨a, world', rfl, (runAt_bind_of_ok hs).symm.trans h⟩

/-- A failure is handled in the world that the step left. -/
theorem runAt_tryCatch (step : Attempt ω ε α) (handle : ε → Attempt ω ε α) (world : ω) :
    runAt (tryCatch step handle) world =
      runAt (match (step.runAt world).1 with
        | .ok a => pure a
        | .error e => handle e) (step.runAt world).2 := rfl

/-- What is done with the outcome of a step, be it a failure. -/
theorem runAt_mk_bind (step : Attempt ω ε α) (next : Except ε α → StateM ω (Except ε' β))
    (world : ω) :
    runAt (ExceptT.mk (step.run >>= next)) world =
      runAt (ExceptT.mk (next (step.runAt world).1)) (step.runAt world).2 := rfl

/-- Telling a failure in other words changes no world. -/
@[simp]
theorem runAt_mapError (f : ε → ε') (step : Attempt ω ε α) (world : ω) :
    runAt (step.mapError f) world = ((step.runAt world).1.mapError f, (step.runAt world).2) := rfl

theorem runAt_of_runAt_mapError_ok {f : ε → ε'} {step : Attempt ω ε α} {world last : ω} {a : α}
    (h : runAt (step.mapError f) world = (.ok a, last)) : step.runAt world = (.ok a, last) := by
  rw [runAt_mapError] at h
  rcases hs : step.runAt world with ⟨e | b, world'⟩
  · rw [hs] at h
    exact nomatch congrArg Prod.fst h
  · rw [hs] at h
    cases h
    rfl

/-! ### What a step keeps -/

/-- A step leaves what is seen of a world as it is, however it ends. -/
def Keeps {σ : Type} (see : ω → σ) (step : Attempt ω ε α) : Prop :=
  ∀ world, see (step.runAt world).2 = see world

namespace Keeps

variable {σ : Type} {see : ω → σ} {step : Attempt ω ε α}

theorem pure (a : α) : Keeps see (Pure.pure a : Attempt ω ε α) := fun _ => rfl

theorem throw (e : ε) : Keeps see (MonadExcept.throw e : Attempt ω ε α) := fun _ => rfl

theorem ofExcept (outcome : Except ε α) : Keeps see (Attempt.ofExcept outcome : Attempt ω ε α) :=
  fun _ => rfl

/-- What both steps keep is kept by one after the other. -/
theorem bind {next : α → Attempt ω ε β} (h : step.Keeps see) (hnext : ∀ a, (next a).Keeps see) :
    Keeps see (step >>= next) := by
  intro world
  rcases hs : step.runAt world with ⟨e | a, left⟩
  · have hleft := h world
    rw [hs] at hleft
    rw [runAt_bind_of_error hs, ← hleft]
  · have hleft := h world
    rw [hs] at hleft
    rw [runAt_bind_of_ok hs, hnext a left, ← hleft]

theorem mapError (h : step.Keeps see) (f : ε → ε') : (step.mapError f).Keeps see := h

end Keeps

/-! ### Steps told in other words -/

theorem runAt_ext {step step' : Attempt ω ε α}
    (h : ∀ world, step.runAt world = step'.runAt world) : step = step' :=
  funext h

/-- Telling the failures of composed steps in other words is telling those of each of them so. -/
theorem mapError_bind (f : ε → ε') (step : Attempt ω ε α) (next : α → Attempt ω ε β) :
    (step >>= next).mapError f = step.mapError f >>= fun a => (next a).mapError f := by
  refine runAt_ext fun world => ?_
  rw [runAt_mapError]
  rcases hs : step.runAt world with ⟨e | a, left⟩
  · have hm : (step.mapError f).runAt world = (.error (f e), left) := by
      rw [runAt_mapError, hs]
      rfl
    rw [runAt_bind_of_error hs, runAt_bind_of_error hm]
    rfl
  · have hm : (step.mapError f).runAt world = (.ok a, left) := by
      rw [runAt_mapError, hs]
      rfl
    rw [runAt_bind_of_ok hs, runAt_bind_of_ok hm, runAt_mapError]

theorem mapError_mapError {ε'' : Type} (f : ε → ε') (g : ε' → ε'') (step : Attempt ω ε α) :
    (step.mapError f).mapError g = step.mapError (g ∘ f) := by
  refine runAt_ext fun world => ?_
  rw [runAt_mapError, runAt_mapError, runAt_mapError]
  cases (step.runAt world).1 <;> rfl

/-! ### Steps on a part of a world -/

theorem runAt_zoom {ω' : Type} (get : ω → ω') (set : ω' → ω → ω) (step : Attempt ω' ε α)
    (world : ω) :
    runAt (step.zoom get set) world =
      ((step.runAt (get world)).1, set (step.runAt (get world)).2 world) := rfl

/-- Steps on a part of a world are composed there. -/
theorem zoom_bind {ω' : Type} (part : Part ω ω') (step : Attempt ω' ε α)
    (next : α → Attempt ω' ε β) :
    (step >>= next).zoom part.get part.set =
      step.zoom part.get part.set >>= fun a => (next a).zoom part.get part.set := by
  refine runAt_ext fun world => ?_
  rw [runAt_zoom]
  rcases hs : step.runAt (part.get world) with ⟨e | a, left⟩
  · have hz : runAt (step.zoom part.get part.set) world = (.error e, part.set left world) := by
      rw [runAt_zoom, hs]
    rw [runAt_bind_of_error hs, runAt_bind_of_error hz]
  · have hz : runAt (step.zoom part.get part.set) world = (.ok a, part.set left world) := by
      rw [runAt_zoom, hs]
    rw [runAt_bind_of_ok hs, runAt_bind_of_ok hz, runAt_zoom, part.get_set, part.set_set]

theorem zoom_pure {ω' : Type} (part : Part ω ω') (a : α) :
    (pure a : Attempt ω' ε α).zoom part.get part.set = pure a := by
  refine runAt_ext fun world => ?_
  rw [runAt_zoom, runAt_pure, runAt_pure, part.set_get]

theorem zoom_throw {ω' : Type} (part : Part ω ω') (e : ε) :
    (throw e : Attempt ω' ε α).zoom part.get part.set = throw e := by
  refine runAt_ext fun world => ?_
  rw [runAt_zoom, runAt_throw, runAt_throw, part.set_get]

/-- What a step keeps of a part of a world, it keeps of it in the world. -/
theorem Keeps.zoom {ω' σ : Type} {see : ω' → σ} {step : Attempt ω' ε α} (h : step.Keeps see)
    (part : Part ω ω') : (step.zoom part.get part.set).Keeps fun world => see (part.get world) := by
  intro world
  rw [runAt_zoom]
  change see (part.get (part.set _ world)) = _
  rw [part.get_set]
  exact h (part.get world)

theorem zoom_ofExcept {ω' : Type} (part : Part ω ω') (outcome : Except ε α) :
    (ofExcept outcome : Attempt ω' ε α).zoom part.get part.set = ofExcept outcome := by
  refine runAt_ext fun world => ?_
  rw [runAt_zoom, runAt_ofExcept, runAt_ofExcept, part.set_get]

end Attempt

end Webrev
