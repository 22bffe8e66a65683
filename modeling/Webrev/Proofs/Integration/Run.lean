import Webrev.Integration
import Webrev.Proofs.Attempt

/-!
# The runs of a fetch, step by step

What a fetch does in a world is what its steps do, one after the other, each in the world that the
one before it left. Here the steps are taken apart up to the download: the question whether the
working copy is clean, the table of the page, and the record that it gives.

## Main definitions

* `Integration.withRecord` : a step with the patch that a record links to.

## Main results

* `Integration.runAt_fetch_of_clean` : a fetch in a clean working copy.
* `Integration.runAt_metadataAt_of_header` : the metadata of a webrev, by the table of its page.
* `Integration.runAt_withWebrev_of_ok` : a step with a webrev whose metadata can be read.
-/

namespace Webrev.Integration

variable {ω α : Type} {client : Client ω} {repository : Repository ω} {request : Request}
  {location : String} {world next : ω} {metadata : Metadata}

/-! ### The working copy -/

section Clean

/-- A fetch ends when it cannot be asked whether the working copy is clean. -/
theorem runAt_fetch_of_error {e : RepositoryError}
    (h : (repository.query .isClean).runAt world = (.error e, next)) :
    (fetch client repository request).runAt world = (.error (.repository e), next) := by
  have hasked : (Attempt.mapError Error.repository (repository.query .isClean)).runAt world =
      (.error (.repository e), next) := by
    rw [Attempt.runAt_mapError, h]
    rfl
  exact Attempt.runAt_bind_of_error hasked

/-- A fetch ends when the working copy is not clean. -/
theorem runAt_fetch_of_dirty (h : (repository.query .isClean).runAt world = (.ok false, next)) :
    (fetch client repository request).runAt world = (.error .dirtyWorkingCopy, next) := by
  have hasked : (Attempt.mapError Error.repository (repository.query .isClean)).runAt world =
      (.ok false, next) := by
    rw [Attempt.runAt_mapError, h]
    rfl
  exact Attempt.runAt_bind_of_ok hasked

/-- A fetch in a clean working copy. -/
theorem runAt_fetch_of_clean (h : (repository.query .isClean).runAt world = (.ok true, next)) :
    (fetch client repository request).runAt world =
      (withWebrev client request.location fun metadata _ patch =>
        fetchPatch repository request metadata patch).runAt next := by
  have hasked : (Attempt.mapError Error.repository (repository.query .isClean)).runAt world =
      (.ok true, next) := by
    rw [Attempt.runAt_mapError, h]
    rfl
  unfold fetch
  exact (Attempt.runAt_bind_of_ok hasked).trans rfl

end Clean

/-! ### The record of a page -/

theorem runAt_metadataAt_of_malformed {fault : Location.Fault}
    (hs : Location.sanitize location = .error fault) (world : ω) :
    (metadataAt client location).runAt world =
      (.error (.access (.malformedLocation location fault)), world) := by
  rw [metadataAt, Client.fetchMetadata, hs]
  rfl

/-- The metadata of a webrev, by the table of its page. -/
theorem runAt_metadataAt_of_header {source : Url} {header : Page.Header}
    (hs : Location.sanitize location = .ok source)
    (hheader : (client.fetchHeader source).runAt world = (.ok header, next)) :
    (metadataAt client location).runAt world =
      ((Metadata.ofHeader header source).mapError .access, next) := by
  have hsource : Attempt.runAt (Attempt.ofExcept
      ((Location.sanitize location).mapError (AccessError.malformedLocation location))) world =
        (.ok source, world) := by
    rw [hs]
    rfl
  rw [metadataAt, Attempt.runAt_mapError, Client.fetchMetadata, Attempt.runAt_bind_of_ok hsource,
    Attempt.runAt_bind_of_ok hheader, Attempt.runAt_ofExcept]

/-- A step with the patch that a record links to. -/
def withRecord (client : Client ω) (step : Metadata → Url → PatchFile → Attempt ω Error α)
    (metadata : Metadata) : Attempt ω Error α :=
  match metadata.patchUri with
  | some uri => withPatch client uri (step metadata uri)
  | none => throw (.patchNotFound metadata.sourceUri)

variable {step : Metadata → Url → PatchFile → Attempt ω Error α}

theorem runAt_withWebrev_of_error {e : Error}
    (h : (metadataAt client location).runAt world = (.error e, next)) :
    (withWebrev client location step).runAt world = (.error e, next) :=
  Attempt.runAt_bind_of_error h

/-- A step with a webrev whose metadata can be read. -/
theorem runAt_withWebrev_of_ok
    (h : (metadataAt client location).runAt world = (.ok metadata, next)) :
    (withWebrev client location step).runAt world = (withRecord client step metadata).runAt next :=
  Attempt.runAt_bind_of_ok h

end Webrev.Integration
