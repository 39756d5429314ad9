/-!
# CallPolicy — how managed services are called
-/
namespace SearchDomain.Aws

/-- The region whose services are called, how often a call is attempted, and the milliseconds that it may take. Nothing
is tried twice: whoever sent the event decides whether to send it again. -/
structure CallPolicy where
  region : String
  timeout : Nat
  attempts : Nat := 1
  deriving DecidableEq, Repr

end SearchDomain.Aws
