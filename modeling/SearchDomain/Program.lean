import SearchDomain.Aws.CallPolicy
import SearchDomain.Aws.DomainManagement
import SearchDomain.Aws.SecretsManager
import SearchDomain.DomainApi.Client
import SearchDomain.Plan
import SearchDomain.Rotation
import SearchDomain.Settings.Program
/-!
# Program — the services, connected

A program is set up once from its settings and then handles one event text after another. Its clients turn the calls of
a plan into messages; connections carry them. An event that cannot be read is refused before anything is called.
-/
namespace SearchDomain

structure Clients where
  domain : DomainApi.Client
  management : Aws.DomainManagement
  secrets : Aws.SecretsManager

/-- Whoever answers messages, and who tells the moment at which a request is sent. -/
structure Connections (σ : Type) where
  domain : Http.Network σ
  services : Aws.Service σ
  moment : σ → DomainApi.Moment × σ

namespace Clients

def ofSettings (endpoint : String) (policy : Aws.CallPolicy) (secretsEndpoint : Option String)
    (credentials : Signature.CredentialSource) : Clients where
  domain := { baseUrl := Endpoint.baseUrl endpoint, region := policy.region, credentials }
  management := .ofRegion policy.region
  secrets := .ofRegion policy.region secretsEndpoint

/-- The error of a fault in a call about a secret. -/
def aboutSecret {σ α : Type} (secret : String) (outcome : Except Aws.Fault α × σ) : Except Error α × σ :=
  (outcome.1.mapError (Aws.SecretsManager.error secret), outcome.2)

/-- Answer the calls of a plan by messages. -/
def backend {σ : Type} (c : Clients) (k : Connections σ) : Plan.Backend σ
  | .send request, s =>
    let (moment, s) := k.moment s
    c.domain.send k.domain moment request s
  | .authenticate username password, s => c.domain.authenticate k.domain username password s
  | .enableInternalUsers domain, s => c.management.enableInternalUsers k.services domain s
  | .describeSecret secret, s => aboutSecret secret (c.secrets.describe k.services secret s)
  | .getSecretValue secret selector, s => aboutSecret secret (c.secrets.get k.services secret selector s)
  | .putSecretValue secret token value stage, s =>
    aboutSecret secret (c.secrets.put k.services secret token value stage s)
  | .getRandomPassword exclude, s =>
    aboutSecret Aws.SecretsManager.passwordName (c.secrets.random k.services exclude s)
  | .promote secret target source, s => aboutSecret secret (c.secrets.promote k.services secret target source s)

end Clients

/-- A program: its clients, and the plan for an event text, if that can be read. -/
structure Program where
  clients : Clients
  plan? : String → Option (Plan Json)

namespace Program

/-- The policy of a program: its region, and its timeout for every call. -/
def policy (region : String) (seconds : Nat) : Aws.CallPolicy := { region, timeout := seconds * 1000 }

/-- The program that configures a domain. -/
def bootstrap (env : Settings.Environment) (credentials : Signature.CredentialSource) :
    Except Settings.Fault Program := do
  let settings ← Settings.BootstrapSettings.ofEnvironment env
  return {
    clients := .ofSettings settings.endpoint (policy settings.region settings.timeout) none credentials
    plan? := fun source => (LifecycleEvent.layout.leading? source).map fun event =>
      (Bootstrap.handle settings.parameters event).bind fun response => return response.toJson }

/-- The program that rotates passwords. -/
def rotation (env : Settings.Environment) (credentials : Signature.CredentialSource) :
    Except Settings.Fault Program := do
  let settings ← Settings.RotationSettings.ofEnvironment env
  return {
    clients :=
      .ofSettings settings.endpoint (policy settings.region settings.timeout) settings.secretsEndpoint credentials
    plan? := fun source => (RotationEvent.layout.leading? source).map fun event =>
      (Rotation.handle settings.exclude event).bind fun _ => return .null }

/-- What is said of an event that cannot be read. -/
def unreadableMessage : String := "failed to deserialize the incoming data into the function's payload type"

/-- Handle an event text: the response, or what is said of the failure. -/
def handle {σ : Type} (p : Program) (k : Connections σ) (source : String) (s : σ) : Except String Json × σ :=
  match p.plan? source with
  | none => (.error unreadableMessage, s)
  | some plan =>
    let outcome := plan.run (p.clients.backend k) s
    (outcome.result.mapError Error.message, outcome.state)

end Program
end SearchDomain
