import SearchDomain.Json.Fault
import SearchDomain.Settings.Fault
/-!
# Error — why a service gives up

Nothing is tried twice here: an error ends the handling of an event and is reported to whoever sent it.
-/
namespace SearchDomain

inductive Error
  /-- The domain, or its management, answered with a status that is no success. -/
  | configuration (context : String) (status : Nat) (body : String)
  | secretAccess (secret reason : String)
  | invalidRotationState (reason : String)
  | unsupportedRequestType (text : String)
  | unsupportedStep (text : String)
  | transport (reason : String)
  /-- A request that failed before any answer came back. -/
  | dispatch (context reason : String)
  | signing (reason : String)
  | template (reason : String)
  | serialization (misread : Json.Misread)
  | settings (fault : Settings.Fault)
  deriving DecidableEq, Repr

namespace Error

def message : Error → String
  | configuration context status body => s!"Error {status} in {context}: {body}"
  | secretAccess secret reason => "Failed to access secret " ++ secret ++ ": " ++ reason
  | invalidRotationState reason => "Invalid rotation state: " ++ reason
  | unsupportedRequestType text => "Invalid request type: " ++ text
  | unsupportedStep text => "Invalid step parameter: " ++ text
  | transport reason => "Transport error: " ++ reason
  | dispatch context reason => "Request failed in " ++ context ++ ": " ++ reason
  | signing reason => "Signing error: " ++ reason
  | template reason => "Template error: " ++ reason
  | serialization misread => "Serialization error: " ++ misread.message
  | settings fault => fault.message

/-- The status of the answer, where there was one. -/
def status? : Error → Option Nat
  | configuration _ status _ => some status
  | _ => none

end Error
end SearchDomain
