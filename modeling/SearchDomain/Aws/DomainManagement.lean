import SearchDomain.Aws.DomainConfig
import SearchDomain.Aws.Region
import SearchDomain.Aws.Service
import SearchDomain.Error
import SearchDomain.Text.Percent
/-!
# DomainManagement — the service that runs search domains

One change is asked of it: that a domain keep its own users. The region and the name of the domain are parts of the
address, so the region must be fit for one and the name must not be empty.
-/
namespace SearchDomain.Aws

/-- A client of the management service of a region; it has no address if the region is none. -/
structure DomainManagement where
  base? : Option String
  deriving DecidableEq, Repr

namespace DomainManagement

def ofRegion (region : String) : DomainManagement := ⟨Region.serviceUri? "es" region⟩

def configPath (domain : String) : String :=
  "/2021-01-01/opensearch/domain/" ++ Text.Percent.component domain ++ "/config"

/-- The change that turns on the internal user database. -/
def userDatabaseOn : Json :=
  .object [("AdvancedSecurityOptions", .object [("InternalUserDatabaseEnabled", .bool true)])]

/-- The request for the change; none for a domain without a name. -/
def request? (m : DomainManagement) (domain : String) : Option Request :=
  if domain = "" then none
  else m.base?.map fun base => ⟨base ++ configPath domain, none, "application/json", userDatabaseOn⟩

def outputShape : Shape :=
  .record
    [ ("DomainConfig", DomainConfig.shape), ("DryRunResults", DomainConfig.dryRunResults),
      ("DryRunProgressStatus", DomainConfig.dryRunProgress) ]

def updateContext : String := "domain security configuration update"

def error (fault : Fault) : Error :=
  match fault.status? with
  | some status => .configuration updateContext status fault.message
  | none => .dispatch updateContext fault.message

def enableInternalUsers {σ : Type} (m : DomainManagement) (service : Service σ) (domain : String) (s : σ) :
    Except Error Unit × σ :=
  let (reply, s) := service.call (m.request? domain) outputShape s
  ((reply.map fun _ => ()).mapError error, s)

end DomainManagement
end SearchDomain.Aws
