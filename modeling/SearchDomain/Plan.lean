import SearchDomain.DomainApi.Request
import SearchDomain.SecretVersion
/-!
# Plan — what a service does, call by call

A service touches the world through eight kinds of call. A plan is a tree: it is finished, or it makes a call and goes
on with the answer. A backend answers calls on a state of its own; running a plan against one gives the calls in
order, the result and the last state.
-/
namespace SearchDomain

open DomainApi (Request Response)

/-- What a service asks of the world. -/
inductive Call
  | send (request : Request)
  /-- Ask the domain who the internal user with these credentials is. -/
  | authenticate (username password : String)
  | enableInternalUsers (domain : String)
  | describeSecret (secret : String)
  | getSecretValue (secret : String) (selector : Selector)
  /-- Store a value under a version (the token) that carries the stage. -/
  | putSecretValue (secret token value : String) (stage : Stage)
  | getRandomPassword (exclude : String)
  /-- Make one version current and take the label from another. -/
  | promote (secret target : String) (source : Option String)
  deriving Repr

/-- The type of a call's answer. A value may be looked for and not found. -/
abbrev Call.Answer : Call → Type
  | .send _ => Response
  | .authenticate _ _ => Response
  | .enableInternalUsers _ => Unit
  | .describeSecret _ => Description
  | .getSecretValue _ _ => Option SecretValue
  | .putSecretValue _ _ _ _ => Unit
  | .getRandomPassword _ => String
  | .promote _ _ _ => Unit

/-- A service's behaviour from some point on. -/
inductive Plan (α : Type) : Type
  | done (result : Except Error α)
  | call (c : Call) (next : Except Error c.Answer → Plan α)

namespace Plan

variable {α β σ : Type}

def perform (c : Call) : Plan c.Answer := .call c .done

def fail (e : Error) : Plan α := .done (.error e)

/-- Finish with a value that has been computed. -/
def ofExcept (x : Except Error α) : Plan α := .done x

/-- Go on with the value of a plan; an error ends it. -/
def bind (p : Plan α) (f : α → Plan β) : Plan β :=
  match p with
  | .done (.ok x) => f x
  | .done (.error e) => .done (.error e)
  | .call c next => .call c fun answer => (next answer).bind f

instance : Monad Plan where
  pure x := .done (.ok x)
  bind := bind

/-- Answers to calls on a state. -/
abbrev Backend (σ : Type) := (c : Call) → σ → Except Error c.Answer × σ

structure Outcome (σ α : Type) where
  calls : List Call
  result : Except Error α
  state : σ

def run (backend : Backend σ) : Plan α → σ → Outcome σ α
  | .done result, s => ⟨[], result, s⟩
  | .call c next, s =>
    let (answer, s) := backend c s
    let rest := (next answer).run backend s
    { rest with calls := c :: rest.calls }

/-- Do something for each element, in order. -/
def each (f : β → Plan Unit) : List β → Plan Unit
  | [] => .done (.ok ())
  | x :: xs => (f x).bind fun _ => each f xs

end Plan
end SearchDomain
