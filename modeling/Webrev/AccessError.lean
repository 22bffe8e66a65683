import Webrev.Http.Status
import Webrev.Location

/-!
# Failures on the way to a webrev

## Main definitions

* `RetrievalFault` : what went wrong with a request.
* `AccessError` : why a webrev could not be had.
-/

namespace Webrev

/-- What went wrong with a request. -/
inductive RetrievalFault where
  | transport
  | status (status : Http.Status)
  | storage
  deriving DecidableEq, Repr

/-- The description of a fault. -/
def RetrievalFault.message : RetrievalFault → String
  | .transport => "request failed"
  | .status s => "server responded with " ++ s.text
  | .storage => "local I/O failed"

/-- Why a webrev could not be had. -/
inductive AccessError where
  | malformedLocation (location : String) (fault : Location.Fault)
  | retrieval (uri : String) (fault : RetrievalFault)
  | client
  deriving DecidableEq, Repr

/-- The description of a failure. -/
def AccessError.message : AccessError → String
  | .malformedLocation location fault =>
    "Malformed location '" ++ location ++ "': " ++ fault.message
  | .retrieval uri fault => "Failed to retrieve " ++ uri ++ ": " ++ fault.message
  | .client => "Failed to build HTTP client"

end Webrev
