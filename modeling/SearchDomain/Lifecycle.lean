import SearchDomain.Error
import SearchDomain.Json.Record
/-!
# Lifecycle — what the framework that owns the domain asks for, and what it is told

An event asks for the domain's configuration to be created, updated or deleted. The response to a create carries the
saved objects that it made, and comes back as the data of a later delete.
-/
namespace SearchDomain

inductive RequestKind
  | create
  | update
  | delete
  deriving DecidableEq, Repr

namespace RequestKind

def name : RequestKind → String
  | create => "Create"
  | update => "Update"
  | delete => "Delete"

def ofName (s : String) : Except Error RequestKind :=
  if s = create.name then .ok create
  else if s = update.name then .ok update
  else if s = delete.name then .ok delete
  else .error (.unsupportedRequestType s)

end RequestKind

/-- A dashboard object made by an import, by its type and id. -/
structure SavedObject where
  kind : String
  id : String
  deriving DecidableEq, Repr

namespace SavedObject

structure Draft where
  kind : Option String := none
  id : Option String := none

def Draft.finish (d : Draft) : Except String SavedObject := do
  return { kind := ← d.kind.getDM (throw "type"), id := ← d.id.getDM (throw "id") }

def layout : Json.Layout Draft SavedObject where
  name := "SavedObjectRef"
  fields :=
    [.of "type" (·.kind) (fun x d => { d with kind := some x }) false fun _ => Json.text,
      .of "id" (·.id) (fun x d => { d with id := some x }) false fun _ => Json.text]
  blank := {}
  finish := Draft.finish

def readList (depth : Nat) : Json.Reader (List SavedObject) := Json.sequence depth layout.read

def toJson (o : SavedObject) : Json := .object [("type", .string o.kind), ("id", .string o.id)]

end SavedObject

structure Captured where
  objects : List SavedObject := []
  deriving DecidableEq, Repr

namespace Captured

structure Draft where
  objects : Option (List SavedObject) := none

def layout : Json.Layout Draft Captured where
  name := "ResourceData"
  fields := [.of "Resources" (·.objects) (fun x _ => { objects := some x }) true SavedObject.readList]
  blank := {}
  finish d := .ok { objects := d.objects.getD [] }

def toJson (c : Captured) : Json := .object [("Resources", .array (c.objects.map SavedObject.toJson))]

end Captured

/-- An event. The kind stays a text, so that an unknown one is refused as such and not as a malformed document. -/
structure LifecycleEvent where
  requestType : String
  properties : Table Json := []
  physicalId : Option String := none
  requestId : Option String := none
  logicalId : Option String := none
  data : Option Captured := none

namespace LifecycleEvent

structure Draft where
  requestType : Option String := none
  properties : Option (Table Json) := none
  physicalId : Option (Option String) := none
  requestId : Option (Option String) := none
  logicalId : Option (Option String) := none
  data : Option (Option Captured) := none

def Draft.finish (d : Draft) : Except String LifecycleEvent := do
  return {
    requestType := ← d.requestType.getDM (throw "RequestType")
    properties := d.properties.getD []
    physicalId := d.physicalId.getD none
    requestId := d.requestId.getD none
    logicalId := d.logicalId.getD none
    data := d.data.getD none }

def layout : Json.Layout Draft LifecycleEvent where
  name := "LifecycleEvent"
  fields :=
    [.of "RequestType" (·.requestType) (fun x d => { d with requestType := some x }) false fun _ => Json.text,
      .of "ResourceProperties" (·.properties) (fun x d => { d with properties := some x }) true Json.freeObject,
      .of "PhysicalResourceId" (·.physicalId) (fun x d => { d with physicalId := some x }) true
        fun _ => Json.optional Json.text,
      .of "RequestId" (·.requestId) (fun x d => { d with requestId := some x }) true fun _ => Json.optional Json.text,
      .of "LogicalResourceId" (·.logicalId) (fun x d => { d with logicalId := some x }) true
        fun _ => Json.optional Json.text,
      .of "Data" (·.data) (fun x d => { d with data := some x }) true
        fun depth => Json.optional (Captured.layout.read depth)]
  blank := {}
  finish := Draft.finish

def ofText (source : String) : Except Error LifecycleEvent := (layout.ofText source).mapError .serialization

def kind (e : LifecycleEvent) : Except Error RequestKind := RequestKind.ofName e.requestType

/-- The saved objects captured by an earlier create; none if the event brings none. -/
def captured (e : LifecycleEvent) : List SavedObject := (e.data.map (·.objects)).getD []

/-- A member for an option that is present. -/
def optionalMember {α : Type} (name : String) (write : α → Json) : Option α → List (String × Json)
  | none => []
  | some x => [(name, write x)]

/-- The event written back: fields in order, absent options left off. -/
def toJson (e : LifecycleEvent) : Json :=
  .object ([("RequestType", .string e.requestType), ("ResourceProperties", .object e.properties)]
    ++ optionalMember "PhysicalResourceId" .string e.physicalId
    ++ optionalMember "RequestId" .string e.requestId
    ++ optionalMember "LogicalResourceId" .string e.logicalId
    ++ optionalMember "Data" Captured.toJson e.data)

def toText (e : LifecycleEvent) : String := e.toJson.render

end LifecycleEvent

structure LifecycleResponse where
  data : Captured := {}
  deriving DecidableEq, Repr

namespace LifecycleResponse

def ofObjects (objects : List SavedObject) : LifecycleResponse := ⟨⟨objects⟩⟩

structure Draft where
  data : Option Captured := none

def layout : Json.Layout Draft LifecycleResponse where
  name := "LifecycleResponse"
  fields := [.of "Data" (·.data) (fun x _ => { data := some x }) false Captured.layout.read]
  blank := {}
  finish d := do return { data := ← d.data.getDM (throw "Data") }

def ofText (source : String) : Except Error LifecycleResponse := (layout.ofText source).mapError .serialization

def toJson (r : LifecycleResponse) : Json := .object [("Data", r.data.toJson)]

def toText (r : LifecycleResponse) : String := r.toJson.render

end LifecycleResponse
end SearchDomain
