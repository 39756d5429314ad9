import SearchDomain.Credential
import SearchDomain.DomainApi.Path
import SearchDomain.Lifecycle
import SearchDomain.Payload.Dashboard
import SearchDomain.Payload.IndexTemplate
import SearchDomain.Payload.Security
import SearchDomain.Plan
/-!
# Bootstrap — applying and removing the configuration of a domain

A create puts the pipeline's role and its mapping, turns on the internal users, puts the two users and the index
templates, and imports the dashboard. Every step can be repeated, so an update is a create. A delete takes the same
things away again, and the saved objects that the create reported. The first failure ends either.
-/
namespace SearchDomain.Bootstrap

open DomainApi (Request)

/-- What the bootstrap is told about its domain. -/
structure Parameters where
  domainName : String
  pipelineRoleArn : String
  adminSecret : String
  userSecret : String
  deriving DecidableEq, Repr

structure ImportReply where
  success : Option Bool
  results : List SavedObject
  deriving DecidableEq, Repr

namespace ImportReply

structure Draft where
  success : Option (Option Bool) := none
  results : Option (List SavedObject) := none

def layout : Json.Layout Draft ImportReply where
  name := "ImportResponse"
  fields :=
    [.of "success" (·.success) (fun x d => { d with success := some x }) false fun _ => Json.optional Json.flag,
      .of "successResults" (·.results) (fun x d => { d with results := some x }) true SavedObject.readList]
  blank := {}
  finish d := .ok { success := d.success.getD none, results := d.results.getD [] }

def ofText (source : String) : Except Error ImportReply := (layout.ofText source).mapError .serialization

end ImportReply

def sendChecked (context : String) (request : Request) : Plan DomainApi.Response := do
  let response : DomainApi.Response ← Plan.perform (.send request)
  Plan.ofExcept (response.ensureSuccess context)

def putJson (context path : String) (document : Json) : Plan Unit := do
  let _ ← sendChecked context { method := .put, path, body := .json document }

def delete (context path : String) : Plan Unit := do
  let _ ← sendChecked context { method := .delete, path }

/-- The credential in the current version of a secret. -/
def readSecret (secret : String) : Plan Credential := do
  match (← Plan.perform (.getSecretValue secret (.stage .current)) : Option SecretValue) with
  | none => Plan.fail (.secretAccess secret ("no " ++ Stage.current.label ++ " version"))
  | some value => Plan.ofExcept (Credential.ofSecret secret value.text)

/-- Put an internal user with the credential of a secret. -/
def createUser (user : Payload.InternalUser) (secret : String) : Plan Unit := do
  let credential ← readSecret secret
  let document ← Plan.ofExcept (user.document credential.password)
  putJson (secret ++ " creation") (DomainApi.Path.internalUser credential.username) document

def deleteUser (secret : String) : Plan Unit := do
  let credential ← readSecret secret
  delete ("deleting " ++ secret) (DomainApi.Path.internalUser credential.username)

def createTemplate (t : Payload.IndexTemplate) : Plan Unit :=
  putJson (t.name ++ " index template creation") (DomainApi.Path.indexTemplate t.name) t.document

def deleteTemplate (t : Payload.IndexTemplate) : Plan Unit :=
  delete ("deleting " ++ t.name ++ " index template") (DomainApi.Path.indexTemplate t.name)

def deleteObject (o : SavedObject) : Plan Unit := do
  let request : Request := { method := .delete, path := DomainApi.Path.savedObject o.kind o.id }
  let _ ← sendChecked ("deleting " ++ o.kind ++ " " ++ o.id ++ " saved object")
    (request.withHeader DomainApi.Path.dashboardsHeader)

def importContext : String := "saved objects creation"

def importRequest (bundle : Payload.Bundle) : Request :=
  let request : Request := { method := .post, path := DomainApi.Path.savedObjectsImport }
  (request.withHeader DomainApi.Path.dashboardsHeader).withFile bundle.fileName bundle.content

/-- Import a bundle; the saved objects that the domain says it made. -/
def importObjects (bundle : Payload.Bundle) : Plan (List SavedObject) := do
  let response ← sendChecked importContext (importRequest bundle)
  let reply ← Plan.ofExcept (ImportReply.ofText response.body)
  if reply.success = some false then Plan.fail (.configuration importContext response.status response.body)
  else return reply.results

def create (p : Parameters) : Plan LifecycleResponse := do
  putJson "pipeline role creation" DomainApi.Path.pipelineRole Payload.pipelineRole
  let mapping ← Plan.ofExcept (Payload.pipelineRoleMapping p.pipelineRoleArn)
  putJson "pipeline role mapping creation" DomainApi.Path.pipelineRoleMapping mapping
  let _ ← Plan.perform (.enableInternalUsers p.domainName)
  createUser .admin p.adminSecret
  createUser .readOnly p.userSecret
  Plan.each createTemplate Payload.IndexTemplate.all
  return .ofObjects (← importObjects Payload.Dashboard.bundle)

def remove (p : Parameters) (captured : List SavedObject) : Plan Unit := do
  delete "deleting the pipeline role mapping" DomainApi.Path.pipelineRoleMapping
  delete "deleting the pipeline role" DomainApi.Path.pipelineRole
  Plan.each deleteUser [p.adminSecret, p.userSecret]
  Plan.each deleteTemplate Payload.IndexTemplate.all
  Plan.each deleteObject captured

def handle (p : Parameters) (event : LifecycleEvent) : Plan LifecycleResponse := do
  match ← Plan.ofExcept event.kind with
  | .create => create p
  | .update => create p
  | .delete => do
    remove p event.captured
    return {}

def handleText (p : Parameters) (source : String) : Plan LifecycleResponse := do
  handle p (← Plan.ofExcept (LifecycleEvent.ofText source))

end SearchDomain.Bootstrap
