import SearchDomain.Bootstrap
import SearchDomain.Settings.EnvFile
import SearchDomain.Settings.Fault
/-!
# Program — what the two programs are told by their environment

Required variables are read in order and must not be blank; the first one that is missing is blamed. Everything else
has a default.
-/
namespace SearchDomain.Settings

/-- Characters that a generated password must not have, unless the environment says otherwise. -/
def defaultExclude : String := "/@\"'\\"

/-- Seconds before a call is given up, unless the environment says otherwise. -/
def defaultTimeout : Nat := 30

structure BootstrapSettings where
  endpoint : String
  region : String
  parameters : Bootstrap.Parameters
  timeout : Nat
  deriving DecidableEq, Repr

structure RotationSettings where
  endpoint : String
  domainName : String
  region : String
  exclude : String
  secretsEndpoint : Option String
  timeout : Nat
  deriving DecidableEq, Repr

/-- A text has a character that is no white space. -/
def hasContent (s : String) : Bool := s.toList.any (!Text.isWhiteSpace ·)

def required (env : Environment) (name : String) : Except Fault String :=
  match env.text? name with
  | some value => if hasContent value then .ok value else .error (.missing name)
  | none => .error (.missing name)

def digitsValue? (cs : List Char) : Option Nat :=
  if cs ≠ [] ∧ cs.all Char.isDigit then some (cs.foldl (fun n c => n * 10 + (c.toNat - 48)) 0) else none

/-- A positive number of seconds below `2 ^ 64`, with blanks around it and a plus sign in front at will. -/
def seconds? (s : String) : Option Nat := do
  let cs := Text.trim s.toList
  let n ← digitsValue? (if cs.head? = some '+' then cs.drop 1 else cs)
  if 0 < n ∧ n < 0x10000000000000000 then some n else none

def timeoutName : String := "REQUEST_TIMEOUT_SECS"

def requestTimeout (env : Environment) : Except Fault Nat :=
  match env.text? timeoutName with
  | none => .ok defaultTimeout
  | some value =>
    match seconds? value with
    | some n => .ok n
    | none => .error (.invalid timeoutName value)

def BootstrapSettings.ofEnvironment (env : Environment) : Except Fault BootstrapSettings := do
  let endpoint ← required env "DOMAIN_ENDPOINT"
  let domainName ← required env "DOMAIN_NAME"
  let region ← required env "AWS_REGION"
  let pipelineRoleArn ← required env "PIPELINE_ROLE_ARN"
  let adminSecret ← required env "ADMIN_SECRET_ARN"
  let userSecret ← required env "USER_SECRET_ARN"
  let timeout ← requestTimeout env
  return { endpoint, region, parameters := { domainName, pipelineRoleArn, adminSecret, userSecret }, timeout }

def RotationSettings.ofEnvironment (env : Environment) : Except Fault RotationSettings := do
  let endpoint ← required env "DOMAIN_ENDPOINT"
  let domainName ← required env "DOMAIN_NAME"
  let region ← required env "AWS_REGION"
  let timeout ← requestTimeout env
  return {
    endpoint, domainName, region, timeout
    exclude := (env.text? "EXCLUDE_CHARACTERS").getD defaultExclude
    secretsEndpoint := (env.text? "SECRETS_MANAGER_ENDPOINT").filter (· ≠ "") }

/-- The environment with the gaps that a file fills, where there is a file. -/
def withFile (source : Option String) (env : Environment) : Environment :=
  match source with
  | some source => EnvFile.apply source env
  | none => env

end SearchDomain.Settings
