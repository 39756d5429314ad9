import SearchDomain.Aws.Region
import SearchDomain.Aws.Service
import SearchDomain.Error
import SearchDomain.SecretVersion
/-!
# SecretsManager — the managed store of secrets

Five operations, each a JSON document to one address. A value is looked up with a selector; when the service says that
there is no such resource, the lookup has an answer, and it is that nothing was found. Every other refusal is an error.
-/
namespace SearchDomain.Aws

/-- A client of the store; it has no address if its region is none. -/
structure SecretsManager where
  uri? : Option String
  deriving DecidableEq, Repr

namespace SecretsManager

/-! ## Operations -/

/-- An operation: its name, what it is told, and what it promises to reply. -/
structure Operation where
  name : String
  input : List (String × Json)
  output : Shape

def describedShape : Shape :=
  .record
    [ ("ARN", .text), ("Name", .text), ("Type", .text), ("Description", .text), ("KmsKeyId", .text),
      ("RotationEnabled", .flag),
      ("RotationLambdaARN", .text),
      ("RotationRules",
        .record [("AutomaticallyAfterDays", .long), ("Duration", .text), ("ScheduleExpression", .text)]),
      ("ExternalSecretRotationMetadata", .list (.record [("Key", .text), ("Value", .text)])),
      ("ExternalSecretRotationRoleArn", .text),
      ("LastRotatedDate", .time), ("LastChangedDate", .time), ("LastAccessedDate", .time), ("DeletedDate", .time),
      ("NextRotationDate", .time), ("Tags", .list (.record [("Key", .text), ("Value", .text)])),
      ("VersionIdsToStages", .map .texts), ("OwningService", .text), ("CreatedDate", .time), ("PrimaryRegion", .text),
      ("ReplicationStatus",
        .list (.record
          [ ("Region", .text), ("KmsKeyId", .text), ("Status", .text), ("StatusMessage", .text),
            ("LastAccessedDate", .time) ])) ]

def describeSecret (secret : String) : Operation :=
  ⟨"DescribeSecret", [("SecretId", .string secret)], describedShape⟩

def getSecretValue (secret : String) (selector : Selector) : Operation where
  name := "GetSecretValue"
  input :=
    [("SecretId", .string secret)] ++ (selector.id?.map fun id => ("VersionId", Json.string id)).toList
      ++ [("VersionStage", .string selector.wanted.label)]
  output :=
    .record
      [ ("ARN", .text), ("Name", .text), ("VersionId", .text), ("SecretBinary", .blob), ("SecretString", .text),
        ("VersionStages", .texts), ("CreatedDate", .time) ]

def putSecretValue (secret token value : String) (stage : Stage) : Operation where
  name := "PutSecretValue"
  input :=
    [ ("SecretId", .string secret), ("ClientRequestToken", .string token), ("SecretString", .string value),
      ("VersionStages", .array [.string stage.label]) ]
  output := .record [("ARN", .text), ("Name", .text), ("VersionId", .text), ("VersionStages", .texts)]

def getRandomPassword (exclude : String) : Operation :=
  ⟨"GetRandomPassword", [("ExcludeCharacters", .string exclude)], .record [("RandomPassword", .text)]⟩

def updateVersionStage (secret target : String) (source : Option String) : Operation where
  name := "UpdateSecretVersionStage"
  input :=
    [("SecretId", .string secret), ("VersionStage", .string Stage.current.label)]
      ++ (source.map fun id => ("RemoveFromVersionId", Json.string id)).toList
      ++ [("MoveToVersionId", .string target)]
  output := .record [("ARN", .text), ("Name", .text)]

/-! ## Addresses -/

/-- An address with a slash at its end, without query. -/
def withSlash (uri : String) : String :=
  match Http.Target.ofChars? uri.toList with
  | some t =>
    let path := if t.path.getLast? = some '/' then t.path else t.path ++ ['/']
    String.ofList (t.scheme ++ "://".toList ++ t.authority ++ path)
  | none => uri

/-- The store of a region, or the one that is put in its place; even then the region must be one. -/
def ofRegion (region : String) (override : Option String) : SecretsManager :=
  ⟨(Region.serviceUri? "secretsmanager" region).map fun own => withSlash (override.getD own)⟩

def request? (m : SecretsManager) (op : Operation) : Option Request :=
  m.uri?.map fun uri =>
    { uri, target := some ("secretsmanager." ++ op.name), contentType := "application/x-amz-json-1.1",
      body := .object op.input }

/-! ## Replies -/

def textAt? (key : String) (reply : Document) : Option String := (reply.member? key).bind Document.asText?

def labelsOf : Document → List String
  | .array items => items.filterMap Document.asText?
  | _ => []

/-- The versions of a description, with their labels. -/
def versionsOf : Document → Table (List String)
  | .object members => Table.ofList (members.filterMap fun (k, v) => (Document.text? k).map (·, labelsOf v))
  | _ => []

def description (reply : Document) : Description where
  rotationEnabled := ((reply.member? "RotationEnabled").bind Document.asBool?).getD false
  versions := ((reply.member? "VersionIdsToStages").map versionsOf).getD []

/-- The text of a value: the text itself, or the one that its bytes encode. -/
def valueText (reply : Document) : Except Fault String :=
  match textAt? "SecretString" reply with
  | some text => .ok text
  | none =>
    match (reply.member? "SecretBinary").bind Document.asBytes? with
    | some bytes => (Text.Utf8.decode bytes).mapError .undecodable
    | none => .error .noValue

def secretValue (reply : Document) : Except Fault SecretValue := do
  let text ← valueText reply
  return ⟨(textAt? "VersionId" reply).getD "", text⟩

def randomPassword (reply : Document) : Except Fault String :=
  match textAt? "RandomPassword" reply with
  | some password => .ok password
  | none => .error .empty

/-- The cause of a refusal when there is no such secret or version. -/
def notFound : String := "ResourceNotFoundException"

def found : Except Fault Document → Except Fault (Option SecretValue)
  | .ok reply => (secretValue reply).map some
  | .error (.refused status cause) => if cause = some notFound then .ok none else .error (.refused status cause)
  | .error fault => .error fault

/-! ## Calls -/

variable {σ : Type}

def perform {α : Type} (m : SecretsManager) (service : Service σ) (op : Operation)
    (interpret : Except Fault Document → Except Fault α) (s : σ) : Except Fault α × σ :=
  let (reply, s) := service.call (m.request? op) op.output s
  (interpret reply, s)

def describe (m : SecretsManager) (service : Service σ) (secret : String) : σ → Except Fault Description × σ :=
  m.perform service (describeSecret secret) (·.map description)

def get (m : SecretsManager) (service : Service σ) (secret : String) (selector : Selector) :
    σ → Except Fault (Option SecretValue) × σ :=
  m.perform service (getSecretValue secret selector) found

def put (m : SecretsManager) (service : Service σ) (secret token value : String) (stage : Stage) :
    σ → Except Fault Unit × σ :=
  m.perform service (putSecretValue secret token value stage) (·.map fun _ => ())

def random (m : SecretsManager) (service : Service σ) (exclude : String) : σ → Except Fault String × σ :=
  m.perform service (getRandomPassword exclude) (·.bind randomPassword)

def promote (m : SecretsManager) (service : Service σ) (secret target : String) (source : Option String) :
    σ → Except Fault Unit × σ :=
  m.perform service (updateVersionStage secret target source) (·.map fun _ => ())

/-- What a password is called in errors, for want of a secret. -/
def passwordName : String := "random password"

def error (secret : String) (fault : Fault) : Error := .secretAccess secret fault.message

end SecretsManager
end SearchDomain.Aws
