import Webrev.AccessError
import Webrev.Metadata.Basic
import Webrev.PatchFile

/-!
# The way to a webrev

A client has the table of an index page and the patch of a webrev downloaded. Its steps act on a
world, of which nothing is known here.

## Main definitions

* `Attempt` : a step that may fail and that changes a world.
* `Client` : the steps of a client.
* `Client.fetchMetadata` : the metadata of the webrev at a location.
-/

namespace Webrev

/-- A step that may fail and that changes a world. -/
abbrev Attempt (ω ε α : Type) := ExceptT ε (StateM ω) α

/-- The step that changes nothing and has a given outcome. -/
def Attempt.ofExcept {ω ε α : Type} (outcome : Except ε α) : Attempt ω ε α :=
  ExceptT.mk (pure outcome)

/-- The failures of a step, told in other words. -/
def Attempt.mapError {ω ε ε' α : Type} (f : ε → ε') (step : Attempt ω ε α) : Attempt ω ε' α :=
  ExceptT.mk ((·.mapError f) <$> step.run)

/-- A step on a part of a world, as a step on the world. -/
def Attempt.zoom {ω ω' ε α : Type} (get : ω → ω') (set : ω' → ω → ω) (step : Attempt ω' ε α) :
    Attempt ω ε α :=
  ExceptT.mk fun world =>
    let (outcome, part) := step.run (get world)
    (outcome, set part world)

/-- The steps of a client. -/
structure Client (ω : Type) where
  /-- The table of the page at a URL. -/
  fetchHeader : Url → Attempt ω AccessError Page.Header
  /-- The patch at a URL, in a temporary file. -/
  fetchPatch : Url → Attempt ω AccessError PatchFile
  /-- A temporary file is no longer needed. -/
  release : PatchFile → StateM ω Unit

namespace Client

variable {ω : Type}

/-- The metadata of the webrev at a location. -/
def fetchMetadata (client : Client ω) (location : String) : Attempt ω AccessError Metadata := do
  let source ← Attempt.ofExcept ((Location.sanitize location).mapError (.malformedLocation location))
  let header ← client.fetchHeader source
  Attempt.ofExcept (Metadata.ofHeader header source)

/-- A client of a part of a world, as a client of the world. -/
def zoom {ω' : Type} (get : ω → ω') (set : ω' → ω → ω) (client : Client ω') : Client ω where
  fetchHeader url := (client.fetchHeader url).zoom get set
  fetchPatch url := (client.fetchPatch url).zoom get set
  release file := fun world => ((), set (client.release file (get world)).2 world)

end Client

end Webrev
