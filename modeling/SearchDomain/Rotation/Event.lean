import SearchDomain.Error
import SearchDomain.Json.Record
/-!
# Event — what the rotation scheduler asks for

An event names a secret, the version that is being prepared (its token) and one of four steps.
-/
namespace SearchDomain

inductive RotationStep
  | create
  | set
  | test
  | finish
  deriving DecidableEq, Repr

namespace RotationStep

def name : RotationStep → String
  | create => "createSecret"
  | set => "setSecret"
  | test => "testSecret"
  | finish => "finishSecret"

def ofName (s : String) : Except Error RotationStep :=
  if s = create.name then .ok create
  else if s = set.name then .ok set
  else if s = test.name then .ok test
  else if s = finish.name then .ok finish
  else .error (.unsupportedStep s)

end RotationStep

/-- An event. The step stays a text, so that an unknown one is refused before anything is asked of the world. -/
structure RotationEvent where
  secret : String
  token : String
  stepName : String
  deriving DecidableEq, Repr

namespace RotationEvent

structure Draft where
  secret : Option String := none
  token : Option String := none
  stepName : Option String := none

def Draft.finish (d : Draft) : Except String RotationEvent := do
  return {
    secret := ← d.secret.getDM (throw "SecretId")
    token := ← d.token.getDM (throw "ClientRequestToken")
    stepName := ← d.stepName.getDM (throw "Step") }

def layout : Json.Layout Draft RotationEvent where
  name := "RotationEvent"
  fields :=
    [.of "SecretId" (·.secret) (fun x d => { d with secret := some x }) false fun _ => Json.text,
      .of "ClientRequestToken" (·.token) (fun x d => { d with token := some x }) false fun _ => Json.text,
      .of "Step" (·.stepName) (fun x d => { d with stepName := some x }) false fun _ => Json.text]
  blank := {}
  finish := Draft.finish

def ofText (source : String) : Except Error RotationEvent := (layout.ofText source).mapError .serialization

def step (e : RotationEvent) : Except Error RotationStep := RotationStep.ofName e.stepName

def toJson (e : RotationEvent) : Json :=
  .object [("SecretId", .string e.secret), ("ClientRequestToken", .string e.token), ("Step", .string e.stepName)]

def toText (e : RotationEvent) : String := e.toJson.render

end RotationEvent
end SearchDomain
