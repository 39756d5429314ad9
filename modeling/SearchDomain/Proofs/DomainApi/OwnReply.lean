import SearchDomain.DomainApi.Client
import SearchDomain.Proofs.Exchange
import SearchDomain.Proofs.Http.Trail
/-!
# OwnReply — whether a response answers the request that was built

A client builds a request and signs it, and takes for its answer whatever stands at the end of its trail. That is the
answer to the request itself as long as the first reply does not redirect. When it does, a reply that is no success has
been passed over, and the response may be a success of some other request (`faithful_iff`, `redirected_probe`). This is
so whatever redirect rule the client has; where a GET follows, the response must tell the very reply that was passed
over (`faithful_iff_of_becomesGet`).
-/
namespace SearchDomain

/-- Requests that ask the same: method, address and body. Headers may differ. -/
def Http.Request.Same (a b : Http.Request) : Prop := a.method = b.method ∧ a.url = b.url ∧ a.body = b.body

theorem Http.Request.Same.refl (request : Http.Request) : request.Same request := ⟨rfl, rfl, rfl⟩

namespace DomainApi

open Http (Hop Network RedirectRule Trail Stays)

/-- What a client can be asked to do. -/
inductive DomainCall
  | send (moment : Moment) (request : Request)
  | authenticate (username password : String)
  deriving Repr

/-- The response that tells a reply. -/
def Response.ofReply (reply : Http.Reply) : Response := ⟨reply.status, Text.Utf8.decodeLossy reply.body⟩

namespace Client

/-- The request that is built for a call. -/
def built (c : Client) : DomainCall → Except Error Http.Request
  | .send moment request => c.prepare moment request
  | .authenticate username password => c.prepareProbe username password

def perform {σ : Type} (c : Client) (network : Network σ) : DomainCall → σ → Except Error Response × σ
  | .send moment request, s => c.send network moment request s
  | .authenticate username password, s => c.authenticate network username password s

variable {σ : Type} {network : Network σ} {c : Client} {call : DomainCall} {request : Http.Request} {reply : Http.Reply}
  {rule : RedirectRule} {response : Response} {hops : List Hop} {hop last : Hop} {s s' : σ}

theorem perform_eq (c : Client) (network : Network σ) (call : DomainCall) (s : σ) :
    c.perform network call s = c.exchange network (c.built call) s := by cases call <;> rfl

/-- **A response is the reply at the end of the trail** of the request that was built. -/
theorem perform_ok_iff : c.perform network call s = (.ok response, s') ↔
    ∃ request hops last, c.built call = .ok request ∧ Trail c.redirects network request s hops last s' ∧
      hops.length ≤ Http.maxRedirects ∧ last.reply.complete = true ∧ response = .ofReply last.reply := by
  rw [perform_eq]
  cases hb : c.built call with
  | error e =>
    constructor
    · intro h
      cases h
    · rintro ⟨request, hops, last, he, -⟩
      cases he
  | ok request =>
    obtain ⟨answer, s₁, hf⟩ : ∃ answer s₁, Http.fetch c.redirects network request s = (answer, s₁) := ⟨_, _, rfl⟩
    unfold exchange
    simp only [hf]
    constructor
    · intro h
      cases answer with
      | error failure => cases h
      | ok found =>
        cases h
        obtain ⟨hops, last, trail, hl, hc, hs, ht⟩ := Http.fetch_ok_iff.1 hf
        exact ⟨request, hops, last, rfl, trail, hl, hc, by rw [Response.ofReply, hs, ht]⟩
    · rintro ⟨request', hops, last, he, trail, hl, hc, rfl⟩
      cases he
      cases hf.symm.trans (Http.fetch_ok_iff.2 ⟨hops, last, trail, hl, hc, rfl, rfl⟩)
      rfl

/-! ## Success of the request itself -/

/-- Success on the wire means that the request itself succeeded. -/
structure Faithful (request : Http.Request) (hops : List Hop) (last : Hop) (response : Response) : Prop where
  /-- The response is the reply to a request with this method, address and body. -/
  own : ∃ hop ∈ hops ++ [last], hop.request.Same request ∧ response = .ofReply hop.reply
  /-- A reply to such a request that is no success reaches the caller as a failure. -/
  failures : ∀ hop ∈ hops ++ [last], hop.request.Same request → (Response.ofReply hop.reply).isSuccess = false →
    response.isSuccess = false

theorem not_isSuccess_of_redirected {next : Except Http.Failure Http.Request}
    (h : request.redirected? rule reply = some next) :
    (Response.ofReply reply).isSuccess = false := by
  unfold Response.isSuccess Response.ofReply
  rcases Http.status_of_redirected h with hs | hs | hs | hs | hs <;> simp [hs]

/-- **When a response tells of the request itself.** The first reply must not redirect; if it does, the call has to end
in a failure that is the reply to a request with the same method, address and body. -/
theorem faithful_iff (trail : Trail rule network request s hops last s') :
    Faithful request hops last (.ofReply last.reply) ↔ Stays rule network request s ∨
      (Response.ofReply last.reply).isSuccess = false ∧
        ∃ hop ∈ hops ++ [last], hop.request.Same request ∧ Response.ofReply last.reply = .ofReply hop.reply := by
  constructor
  · rintro ⟨own, failures⟩
    cases hops with
    | nil => exact .inl (trail.nil_iff.1 rfl)
    | cons hop hops =>
      obtain ⟨hreq, next, s₁, moves, -⟩ := trail.head_redirects
      have same : hop.request.Same request := by
        rw [hreq]
        exact .refl request
      exact .inr ⟨failures hop (by simp) same (not_isSuccess_of_redirected moves), own⟩
  · rintro (stays | ⟨failed, own⟩)
    · obtain rfl := trail.nil_iff.2 stays
      refine ⟨⟨last, by simp, ?_, rfl⟩, fun hop hm _ hs => ?_⟩
      · rw [trail.last_request]
        exact .refl request
      · rw [List.mem_singleton.1 hm] at hs
        exact hs
    · exact ⟨own, fun _ _ _ _ => failed⟩

/-- **Where a GET follows something else, only the reply that was passed over will do.** No later request is the one
that was built, and what redirects is no success. -/
theorem faithful_iff_of_becomesGet (trail : Trail rule network request s (hop :: hops) last s')
    (becomes : rule.becomesGet hop.reply.status request.method = true) (other : request.method ≠ "GET") :
    Faithful request (hop :: hops) last (.ofReply last.reply) ↔ Response.ofReply last.reply = .ofReply hop.reply := by
  obtain ⟨rfl, next, s₁, moves, rest⟩ := trail.head_redirects
  rw [faithful_iff trail]
  constructor
  · rintro (stays | ⟨-, own, hm, same, he⟩)
    · cases trail.nil_iff.2 stays
    · obtain rfl | hm := List.mem_cons.1 hm
      · exact he
      · have asked := Http.asked_of_redirected moves
        rw [if_pos becomes] at asked
        exact absurd (same.1.symm.trans (rest.gets (congrArg Prod.fst asked) own hm)) other
  · intro he
    refine .inr ⟨?_, hop, List.mem_cons_self, .refl hop.request, he⟩
    rw [he]
    exact not_isSuccess_of_redirected moves

/-- **What a client makes of success.** Whatever call returns a response, it is the reply at the end of the trail of the
request that was built, and the exact condition under which that means success of the request itself. -/
theorem response_faithful_iff (c : Client) (network : Network σ) (call : DomainCall)
    (h : c.perform network call s = (.ok response, s')) :
    ∃ request hops last, c.built call = .ok request ∧ Trail c.redirects network request s hops last s' ∧
      response = .ofReply last.reply ∧
      (Faithful request hops last response ↔ Stays c.redirects network request s ∨
        response.isSuccess = false ∧
          ∃ hop ∈ hops ++ [last], hop.request.Same request ∧ response = .ofReply hop.reply) := by
  obtain ⟨request, hops, last, built, trail, -, -, rfl⟩ := perform_ok_iff.1 h
  exact ⟨request, hops, last, built, trail, rfl, faithful_iff trail⟩

/-! ## A probe that is sent elsewhere -/

/-- A network that gives replies in order, whatever it is asked. -/
def scripted : Network (List Http.Reply)
  | _, [] => (none, [])
  | _, reply :: replies => (some reply, replies)

/-- A client of a domain that can be reached without encryption. -/
def plain : Client where
  baseUrl := "http://search.example.com"
  region := "eu-west-1"
  credentials := .fixed { accessKey := "AKIDEXAMPLE", secretKey := "secret" }
  redirects := .everyMethod

theorem response_faithful_refused :
    ∃ request hops last, plain.built (.authenticate "u" "p") = .ok request ∧
      Trail plain.redirects scripted request [{ status := 401 }] hops last [] ∧
        (⟨401, ""⟩ : Response) = .ofReply last.reply ∧
      (Faithful request hops last ⟨401, ""⟩ ↔ Stays plain.redirects scripted request [{ status := 401 }] ∨
        (⟨401, ""⟩ : Response).isSuccess = false ∧
          ∃ hop ∈ hops ++ [last], hop.request.Same request ∧ (⟨401, ""⟩ : Response) = .ofReply hop.reply) :=
  response_faithful_iff plain scripted (.authenticate "u" "p") (by decide +kernel)

/-- A probe that the domain answers with the way to a page, which is there for everyone, counts as a success. -/
theorem redirected_probe :
    let replies : List Http.Reply := [{ status := 302, headers := [("location", "/login")] }, { status := 200 }]
    plain.perform scripted (.authenticate "u" "p") replies = (.ok ⟨200, ""⟩, []) ∧
      ∃ request hops last, plain.built (.authenticate "u" "p") = .ok request ∧
        Trail plain.redirects scripted request replies hops last [] ∧ ¬ Faithful request hops last ⟨200, ""⟩ := by
  intro replies
  have h : plain.perform scripted (.authenticate "u" "p") replies = (.ok ⟨200, ""⟩, []) := by decide +kernel
  obtain ⟨request, hops, last, built, trail, -, -, hr⟩ := perform_ok_iff.1 h
  refine ⟨h, request, hops, last, built, trail, fun faithful => ?_⟩
  have moves : ((plain.built (.authenticate "u" "p")).toOption.bind
      (·.redirected? plain.redirects { status := 302, headers := [("location", "/login")] })).isSome = true := by
    decide +kernel
  rw [built] at moves
  rw [hr] at faithful
  rcases (faithful_iff trail).1 faithful with stays | ⟨failed, -⟩
  · have stays := stays _ _ rfl
    simp [Except.toOption, stays] at moves
  · rw [← hr] at failed
    cases failed

end Client
end DomainApi
end SearchDomain
