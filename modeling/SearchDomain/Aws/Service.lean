import SearchDomain.Aws.Shape
import SearchDomain.Http.Header
import SearchDomain.Http.Target
import SearchDomain.Text.Utf8
/-!
# Service — one call of a managed service

A call is one request with a JSON document and one reply, and it is never repeated. A reply with a success must hold a
document of the shape that the operation promises, an empty body standing for an empty record. Any other reply is a
refusal, which may name its cause in a header or in the document.
-/
namespace SearchDomain.Aws

/-- A request as a service sees it. The target names the operation, where the address does not. -/
structure Request where
  uri : String
  target : Option String
  contentType : String
  body : Json
  deriving Repr

structure Reply where
  status : Nat
  headers : List Http.Header := []
  body : String := ""
  deriving DecidableEq, Repr

/-- Whoever answers calls, with a state of its own. -/
abbrev Service (σ : Type) := Request → σ → Option Reply × σ

def Service.unreachable : Service Unit := fun _ s => (none, s)

/-- Why a call gave nothing. -/
inductive Fault
  | notSent
  | noReply
  /-- A reply without success, and the cause that it names. -/
  | refused (status : Nat) (cause : Option String)
  /-- A success whose document is not what was promised. -/
  | unreadable (status : Nat)
  | noValue
  /-- A value of bytes that are no text. -/
  | undecodable (fault : Text.Utf8.Fault)
  | empty
  deriving DecidableEq, Repr

namespace Fault

/-- The status of the reply, where there was one and it was the trouble. -/
def status? : Fault → Option Nat
  | refused status _ => some status
  | unreadable status => some status
  | _ => none

/-- Whether the trouble lies in what a readable reply says. -/
def isInContent : Fault → Bool
  | noValue | undecodable _ | empty => true
  | _ => false

def message : Fault → String
  | notSent => "failed to construct request"
  | noReply => "dispatch failure"
  | refused status none => s!"service error (status {status})"
  | refused status (some cause) => s!"service error (status {status}): " ++ cause
  | unreadable status => s!"response error (status {status})"
  | noValue => "secret version carries no value"
  | undecodable fault => fault.message
  | empty => "empty response"

end Fault

namespace Reply

def isSuccess (r : Reply) : Bool := 200 ≤ r.status && r.status < 300

/-- The members of a body that is a record, or empty. -/
def members? (r : Reply) : Option (List (List Char × Document)) :=
  if r.body = "" then some []
  else
    match Document.ofText? r.body with
    | some (.object members) => some members
    | _ => none

/-! ## Refusals -/

/-- The members of an error document that are read as they are spelled. -/
def errorKeys : List String := ["code", "__type", "message", "Message", "errorMessage"]

/-- Whether an error document may have a member: keys are texts, so is what the known members hold, and nothing is too
deep. -/
def isErrorMember (key : List Char) (value : Document) : Bool :=
  match value with
  | .string spelled =>
    (Document.text? key).isSome
      && (!(errorKeys.contains (String.ofList key) || Document.text? key == some "Message")
        || (Document.text? spelled).isSome)
  | .null => (Document.text? key).isSome
  | _ => (Document.text? key).any (· ≠ "Message") && value.canBeSkipped

def lastText? (key : String) (members : List (List Char × Document)) : Option String :=
  (members.filterMap fun (k, v) => if k = key.toList then v.asText? else none).getLast?

/-- The name of a cause without the address behind it and the name space in front of it. -/
def bareCause (s : String) : String :=
  let cs := s.toList.takeWhile (· ≠ ':')
  String.ofList (if cs.contains '#' then (cs.dropWhile (· ≠ '#')).drop 1 else cs)

def cause? (r : Reply) : Option String := do
  let members ← r.members?
  if !members.all fun (k, v) => isErrorMember k v then none
  let named ← (Http.Header.values "x-amzn-errortype" r.headers).head? <|> lastText? "code" members
    <|> lastText? "__type" members
  return bareCause named

/-! ## Successes -/

/-- The record of a reply, or why there is none. -/
def read (shape : Shape) (r : Reply) : Except Fault Document :=
  if r.isSuccess then
    match r.members? with
    | some members =>
      if shape.accepts (.object members) then .ok (.object members) else .error (.unreadable r.status)
    | none => .error (.unreadable r.status)
  else .error (.refused r.status r.cause?)

end Reply

/-- A request that can be sent: its address is one. -/
def Request.isSendable (r : Request) : Bool := (Http.Target.ofChars? r.uri.toList).isSome

/-- Send a request, if there is one that can be sent, and read the reply. -/
def Service.call {σ : Type} (service : Service σ) (request? : Option Request) (shape : Shape) (s : σ) :
    Except Fault Document × σ :=
  match request?.filter Request.isSendable with
  | none => (.error .notSent, s)
  | some request =>
    match service request s with
    | (none, s) => (.error .noReply, s)
    | (some reply, s) => (reply.read shape, s)

end SearchDomain.Aws
