import SearchDomain.Plan
import SearchDomain.SecretStore
/-!
# Rehearsal — a backend with scripted replies

The world of a rehearsal holds a secret store, the passwords that will be generated, and a script. Each call takes the
first reply of the script that is meant for it and has uses left; the reply makes the call fail, or gives the answer
of a domain call. What the script leaves open is answered by the store, and by `200` for the domain.
-/
namespace SearchDomain.Rehearsal

inductive Failure
  | signing
  | dispatch
  | secretAccess
  | configuration
  deriving DecidableEq, Repr

/-- A scripted reply, for the calls with this key or, as `*`, for all. -/
structure Reply where
  key : String
  failure : Option Failure := none
  status : Option Nat := none
  body : String := ""
  message : String := ""
  uses : Option Nat := none
  deriving DecidableEq, Repr

structure World where
  replies : List Reply := []
  store : SecretStore := []
  passwords : List String := []
  drawn : Nat := 0

/-- The key by which a script means a call. -/
def key : Call → String
  | .send request => request.method.name ++ " " ++ request.path
  | .authenticate _ _ => "AUTH"
  | .enableInternalUsers _ => "ENABLE"
  | .describeSecret _ => "DESCRIBE"
  | .getSecretValue _ _ => "GET"
  | .putSecretValue _ _ _ _ => "PUT_SECRET"
  | .getRandomPassword _ => "RANDOM"
  | .promote _ _ _ => "PROMOTE"

/-- What a failing call blames. -/
def context : Call → String
  | .send _ => "fake domain"
  | .authenticate _ _ => "fake domain"
  | .enableInternalUsers _ => "fake management"
  | .describeSecret secret => secret
  | .getSecretValue secret _ => secret
  | .putSecretValue secret _ _ _ => secret
  | .getRandomPassword _ => "random password"
  | .promote secret _ _ => secret

namespace Reply

def isFor (callKey : String) (r : Reply) : Bool := (r.key = callKey || r.key = "*") && r.uses ≠ some 0

def used (r : Reply) : Reply := { r with uses := r.uses.map (· - 1) }

/-- The first reply for a key, and the script with one use of it gone. -/
def take (callKey : String) : List Reply → Option Reply × List Reply
  | [] => (none, [])
  | r :: rest =>
    if r.isFor callKey then (some r, r.used :: rest)
    else
      let (found, rest) := take callKey rest
      (found, r :: rest)

/-- The error of a failing reply. -/
def error (r : Reply) (blamed : String) : Failure → Error
  | .signing => .signing r.message
  | .dispatch => .dispatch blamed r.message
  | .secretAccess => .secretAccess blamed r.message
  | .configuration => .configuration blamed (r.status.getD 500) r.message

def response (r : Reply) : DomainApi.Response := ⟨r.status.getD 200, r.body⟩

end Reply

/-- The password that is generated when none are given. -/
def defaultPassword : String := "Gen3rated-Passw0rd"

/-- The password generated after `drawn` others: the next one, or the last one again. -/
def nextPassword (passwords : List String) (drawn : Nat) : String :=
  (passwords[drawn]?.or passwords.getLast?).getD defaultPassword

/-- The answer to a call that does not fail. -/
def answer (reply : Option Reply) : (c : Call) → World → Except Error c.Answer × World
  | .send _, w => (.ok ((reply.map Reply.response).getD ⟨200, "\x7b\x7d"⟩), w)
  | .authenticate _ _, w => (.ok ((reply.map Reply.response).getD ⟨200, "\x7b\x7d"⟩), w)
  | .enableInternalUsers _, w => (.ok (), w)
  | .describeSecret secret, w => (w.store.describe secret, w)
  | .getSecretValue secret selector, w => (.ok (w.store.getValue secret selector), w)
  | .putSecretValue secret token value stage, w =>
    (.ok (), { w with store := w.store.putValue secret token value stage })
  | .getRandomPassword _, w => (.ok (nextPassword w.passwords w.drawn), { w with drawn := w.drawn + 1 })
  | .promote secret target source, w =>
    let (result, store) := w.store.promote secret target source
    (result, { w with store })

/-- Answer a call from the script and the store. -/
def backend : Plan.Backend World := fun c w =>
  let (reply, replies) := Reply.take (key c) w.replies
  let w := { w with replies }
  match reply with
  | some r =>
    match r.failure with
    | some failure => (.error (r.error (context c) failure), w)
    | none => answer (some r) c w
  | none => answer none c w

/-- Handle events one after the other in one world: the outcome of each, in order. -/
def handleAll {ε α : Type} (handle : ε → Plan α) : List ε → World → List (Plan.Outcome World α)
  | [], _ => []
  | event :: events, w =>
    let outcome := (handle event).run backend w
    outcome :: handleAll handle events outcome.state

end SearchDomain.Rehearsal
