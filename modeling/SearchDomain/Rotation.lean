import SearchDomain.Credential
import SearchDomain.DomainApi.Path
import SearchDomain.Plan
import SearchDomain.Rotation.Event
/-!
# Rotation — the four steps that give an internal user a new password

No state is kept between events: the stage labels in the secret store decide what a step does. A step is taken only
while its token is pending and not yet current.
-/
namespace SearchDomain.Rotation

/-- The version under preparation. -/
def pendingVersion (token : String) : Selector := .version token .pending

/-- The credential in a version that must exist. -/
def requireSecret (secret : String) (selector : Selector) : Plan Credential := do
  match (← Plan.perform (.getSecretValue secret selector) : Option SecretValue) with
  | none => Plan.fail (.secretAccess secret ("no secret version matches " ++ selector.describe))
  | some value => Plan.ofExcept (Credential.ofSecret secret value.text)

/-- Generate a password and store it under the token, unless the token has a value already. -/
def createSecret (exclude secret token : String) : Plan Unit := do
  let current ← requireSecret secret (.stage .current)
  match (← Plan.perform (.getSecretValue secret (pendingVersion token)) : Option SecretValue) with
  | some _ => return ()
  | none => do
    let password : String ← Plan.perform (.getRandomPassword exclude)
    let credential : Credential := { username := current.username, password }
    let _ ← Plan.perform (.putSecretValue secret token credential.toText .pending)

/-- The change that sets a password. -/
def passwordPatch (password : String) : Json :=
  .array [.ofMembers [("op", .string "replace"), ("path", .string "/password"), ("value", .string password)]]

/-- Give the pending password to the domain. -/
def setSecret (secret token : String) : Plan Unit := do
  let pending ← requireSecret secret (pendingVersion token)
  let response : DomainApi.Response ← Plan.perform (.send {
    method := .patch
    path := DomainApi.Path.internalUser pending.username
    body := .json (passwordPatch pending.password) })
  let _ ← Plan.ofExcept (response.ensureSuccess ("rotation " ++ pending.username ++ " password"))

/-- Check that the domain takes the pending password. -/
def testSecret (secret token : String) : Plan Unit := do
  let pending ← requireSecret secret (pendingVersion token)
  let response : DomainApi.Response ← Plan.perform (.authenticate pending.username pending.password)
  let _ ← Plan.ofExcept (response.ensureSuccess ("authentication test of " ++ pending.username))

/-- Make the token current, in place of the version that is. -/
def finishSecret (secret token : String) (description : Description) : Plan Unit := do
  let current := description.current?
  if current = some token then return ()
  else
    let _ ← Plan.perform (.promote secret token current)

/-- What the labels say about a token: done already, to be worked on, or not to be touched. -/
inductive Gate
  | finished
  | pending
  | refused (reason : String)
  deriving DecidableEq, Repr

/-- The gate before every step, in order of precedence. -/
def gate (secret token : String) (description : Description) : Gate :=
  if !description.rotationEnabled then .refused ("Secret " ++ secret ++ " is not enabled for rotation")
  else if (description.labels? token).isNone then
    .refused ("Secret version " ++ token ++ " has no stage for rotation of secret " ++ secret)
  else if description.hasStage token .current then .finished
  else if !description.hasStage token .pending then
    .refused ("Secret version " ++ token ++ " not set as AWSPENDING for rotation of secret " ++ secret)
  else .pending

def takeStep (exclude : String) (step : RotationStep) (secret token : String) (description : Description) : Plan Unit :=
  match step with
  | .create => createSecret exclude secret token
  | .set => setSecret secret token
  | .test => testSecret secret token
  | .finish => finishSecret secret token description

def handle (exclude : String) (event : RotationEvent) : Plan Unit := do
  let step ← Plan.ofExcept event.step
  let description : Description ← Plan.perform (.describeSecret event.secret)
  match gate event.secret event.token description with
  | .refused reason => Plan.fail (.invalidRotationState reason)
  | .finished => return ()
  | .pending => takeStep exclude step event.secret event.token description

def handleText (exclude source : String) : Plan Unit := do
  handle exclude (← Plan.ofExcept (RotationEvent.ofText source))

end SearchDomain.Rotation
