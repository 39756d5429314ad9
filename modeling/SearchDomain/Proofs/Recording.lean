import Mathlib.Data.List.Forall2
import SearchDomain.Program
import SearchDomain.Proofs.Aws.Lookup
import SearchDomain.Proofs.Exchange
/-!
# Recording — the messages behind the calls of a run

Connections can be made to write down every message that passes, and a run does not notice (`run_recorded`). The
record falls into parts, one for each call, and `Carried` says which messages a call can be behind: a look-up in the
secret store is at most one message, and its answer is what the reply is read as.
-/
namespace SearchDomain

open Aws (Service)
open Aws.SecretsManager (Operation getSecretValue putSecretValue Reading)

/-- A message that has left a program, and the reply to it, if there was one. -/
inductive Message
  | service (request : Aws.Request) (reply : Option Aws.Reply)
  | domain (request : Http.Request) (reply : Option Http.Reply)

/-- The operation that a message asks for, where a header names it. -/
def Message.target? : Message → Option String
  | .service request _ => request.target
  | .domain _ _ => none

variable {σ α : Type} {c : Clients} {k : Connections σ} {s : σ} {log : List Message}

/-- The same connections, and every message that passes is written down. -/
def Connections.recorded (k : Connections σ) : Connections (σ × List Message) where
  domain request s :=
    let (reply, next) := k.domain request s.1
    (reply, next, s.2 ++ [.domain request reply])
  services request s :=
    let (reply, next) := k.services request s.1
    (reply, next, s.2 ++ [.service request reply])
  moment s :=
    let (moment, next) := k.moment s.1
    (moment, next, s.2)

/-- The messages of a run. -/
def Clients.messages (c : Clients) (k : Connections σ) (p : Plan α) (s : σ) : List Message :=
  (p.run (c.backend k.recorded) (s, [])).state.2

def getTarget : String := "secretsmanager.GetSecretValue"

def putTarget : String := "secretsmanager.PutSecretValue"

/-- The messages that a call with its answer can be behind. -/
inductive Carried (c : Clients) : Exchange → List Message → Prop
  /-- A call can fail before anything is sent. -/
  | unsent {call : Call} {e : Error} : Carried c ⟨call, .error e⟩ []
  | lookedUp {secret : String} {selector : Selector} {answer : Except Error (Option SecretValue)}
      {request : Aws.Request} {reply : Option Aws.Reply}
      (own : c.secrets.request? (getSecretValue secret selector) = some request)
      (reading : Reading secret selector reply answer) :
      Carried c ⟨.getSecretValue secret selector, answer⟩ [.service request reply]
  | stored {secret token value : String} {stage : Stage} {answer : Except Error Unit} {request : Aws.Request}
      {reply : Option Aws.Reply}
      (own : c.secrets.request? (putSecretValue secret token value stage) = some request) :
      Carried c ⟨.putSecretValue secret token value stage, answer⟩ [.service request reply]
  /-- Other calls are behind other messages. -/
  | other {x : Exchange} {ms : List Message} (call : ∀ secret selector, x.call ≠ .getSecretValue secret selector)
      (targets : ∀ m ∈ ms, m.target? ≠ some getTarget ∧ m.target? ≠ some putTarget) : Carried c x ms

/-! ## One call -/

theorem target_of_request? {m : Aws.SecretsManager} {op : Operation} {request : Aws.Request}
    (h : m.request? op = some request) : request.target = some ("secretsmanager." ++ op.name) := by
  obtain ⟨uri, -, rfl⟩ := Option.map_eq_some_iff.1 h
  rfl

/-- A call of a service is behind one message, or none. -/
theorem call_recorded (s : σ) (log : List Message) (request? : Option Aws.Request) (shape : Aws.Shape) :
    ∃ ms, Service.call k.recorded.services request? shape (s, log) =
        ((Service.call k.services request? shape s).1, (Service.call k.services request? shape s).2, log ++ ms) ∧
      (ms = [] ∧ (Service.call k.services request? shape s).1 = .error .notSent ∨
        ∃ request reply, request? = some request ∧ ms = [.service request reply] ∧
          (Service.call k.services request? shape s).1 = Aws.received shape reply) := by
  unfold Service.call
  cases hr : request?.filter Aws.Request.isSendable with
  | none => exact ⟨[], by simp, .inl ⟨rfl, rfl⟩⟩
  | some request =>
    obtain ⟨own, -⟩ := Option.filter_eq_some_iff.1 hr
    obtain ⟨reply, next, hk⟩ : ∃ reply next, k.services request s = (reply, next) := ⟨_, _, rfl⟩
    have hk' : k.recorded.services request (s, log) = (reply, next, log ++ [.service request reply]) := by
      unfold Connections.recorded
      simp only [hk]
    simp only [hk, hk']
    cases reply with
    | none => exact ⟨_, rfl, .inr ⟨request, none, own, rfl, rfl⟩⟩
    | some reply => exact ⟨_, rfl, .inr ⟨request, some reply, own, rfl, rfl⟩⟩

theorem follow_recorded (rule : Http.RedirectRule) (left : Nat) (request : Http.Request) (s : σ) (log : List Message) :
    ∃ ms, Http.follow rule k.recorded.domain left request (s, log) =
        ((Http.follow rule k.domain left request s).1, (Http.follow rule k.domain left request s).2, log ++ ms) ∧
      ∀ m ∈ ms, m.target? = none := by
  fun_induction Http.follow rule k.domain left request s generalizing log with
  | case1 left request s next silent =>
    refine ⟨[.domain request none], ?_, by simp [Message.target?]⟩
    unfold Http.follow Connections.recorded
    simp only [silent]
  | case2 left request s reply next answered stays =>
    refine ⟨[.domain request (some reply)], ?_, by simp [Message.target?]⟩
    unfold Http.follow Connections.recorded
    simp only [answered, stays]
  | case3 request s reply next answered moved moves =>
    refine ⟨[.domain request (some reply)], ?_, by simp [Message.target?]⟩
    unfold Http.follow Connections.recorded
    simp only [answered, moves]
  | case4 request s reply next answered left failure moves =>
    refine ⟨[.domain request (some reply)], ?_, by simp [Message.target?]⟩
    unfold Http.follow Connections.recorded
    simp only [answered, moves]
  | case5 request s reply next answered left moved moves ih =>
    obtain ⟨ms, h, foreign⟩ := ih (log ++ [.domain request (some reply)])
    refine ⟨.domain request (some reply) :: ms, ?_, ?_⟩
    · rw [Http.follow]
      unfold Connections.recorded at h ⊢
      simp only [answered, moves, h, List.append_assoc, List.singleton_append]
    · intro m hm
      obtain rfl | hm := List.mem_cons.1 hm
      · rfl
      · exact foreign m hm

/-- A request to the domain is behind messages that are none of the services. -/
theorem exchange_recorded (client : DomainApi.Client) (request : Except Error Http.Request) (s : σ)
    (log : List Message) :
    ∃ ms, client.exchange k.recorded.domain request (s, log) =
        ((client.exchange k.domain request s).1, (client.exchange k.domain request s).2, log ++ ms) ∧
      ∀ m ∈ ms, m.target? = none := by
  cases request with
  | error e => exact ⟨[], by simp [DomainApi.Client.exchange], by simp⟩
  | ok request =>
    obtain ⟨ms, h, foreign⟩ := follow_recorded (k := k) client.redirects Http.maxRedirects request s log
    refine ⟨ms, ?_, foreign⟩
    unfold DomainApi.Client.exchange Http.fetch
    simp only [h]

/-- What an operation on the secret store is behind, and what it answers. -/
theorem perform_recorded {β : Type} (m : Aws.SecretsManager) (op : Operation)
    (interpret : Except Aws.Fault Aws.Document → Except Aws.Fault β) (secret : String) (s : σ) (log : List Message)
    (unsent : interpret (.error .notSent) = .error .notSent) :
    ∃ ms, Clients.aboutSecret secret (m.perform k.recorded.services op interpret (s, log)) =
        ((Clients.aboutSecret secret (m.perform k.services op interpret s)).1,
          (Clients.aboutSecret secret (m.perform k.services op interpret s)).2, log ++ ms) ∧
      (ms = [] ∧ (∃ e, (Clients.aboutSecret secret (m.perform k.services op interpret s)).1 = .error e) ∨
        ∃ request reply, m.request? op = some request ∧ ms = [.service request reply] ∧
          (Clients.aboutSecret secret (m.perform k.services op interpret s)).1 =
            (interpret (Aws.received op.output reply)).mapError (Aws.SecretsManager.error secret)) := by
  obtain ⟨ms, h, told⟩ := call_recorded (k := k) s log (m.request? op) op.output
  refine ⟨ms, ?_, ?_⟩
  · unfold Clients.aboutSecret Aws.SecretsManager.perform
    simp only [h]
  · unfold Clients.aboutSecret Aws.SecretsManager.perform
    simp only
    obtain ⟨rfl, hf⟩ | ⟨request, reply, own, rfl, ha⟩ := told
    · exact .inl ⟨rfl, _, by rw [hf, unsent]; rfl⟩
    · exact .inr ⟨request, reply, own, rfl, by rw [ha]⟩

theorem targets_of_request? {op : Operation} {request : Aws.Request} {reply : Option Aws.Reply}
    (own : c.secrets.request? op = some request)
    (name : String) (named : op.name = name)
    (foreign : "secretsmanager." ++ name ≠ getTarget ∧ "secretsmanager." ++ name ≠ putTarget) :
    ∀ m ∈ [Message.service request reply], m.target? ≠ some getTarget ∧ m.target? ≠ some putTarget := by
  intro m hm
  obtain rfl := List.mem_singleton.1 hm
  have target : (Message.service request reply).target? = some ("secretsmanager." ++ op.name) := target_of_request? own
  rw [target, named]
  simpa only [ne_eq, Option.some.injEq] using foreign

theorem target_of_management {m : Aws.DomainManagement} {domain : String} {request : Aws.Request}
    (h : m.request? domain = some request) : request.target = none := by
  unfold Aws.DomainManagement.request? at h
  split at h
  · cases h
  · obtain ⟨base, -, rfl⟩ := Option.map_eq_some_iff.1 h
    rfl

/-- **A call is answered as it would be, and its messages are written down.** -/
theorem backend_recorded (c : Clients) (k : Connections σ) (call : Call) (s : σ) (log : List Message) :
    ∃ ms, c.backend k.recorded call (s, log) = ((c.backend k call s).1, (c.backend k call s).2, log ++ ms) ∧
      Carried c ⟨call, (c.backend k call s).1⟩ ms := by
  cases call with
  | send request =>
    obtain ⟨ms, h, foreign⟩ :=
      exchange_recorded (k := k) c.domain (c.domain.prepare (k.moment s).1 request) (k.moment s).2 log
    exact ⟨ms, h, .other (fun _ _ => nofun) fun m hm => by simp [foreign m hm]⟩
  | authenticate username password =>
    obtain ⟨ms, h, foreign⟩ := exchange_recorded (k := k) c.domain (c.domain.prepareProbe username password) s log
    exact ⟨ms, h, .other (fun _ _ => nofun) fun m hm => by simp [foreign m hm]⟩
  | enableInternalUsers domain =>
    obtain ⟨ms, h, told⟩ := call_recorded (k := k) s log (c.management.request? domain)
      Aws.DomainManagement.outputShape
    refine ⟨ms, ?_, .other (fun _ _ => nofun) fun m hm => ?_⟩
    · unfold Clients.backend Aws.DomainManagement.enableInternalUsers
      simp only [h]
    · obtain ⟨rfl, -⟩ | ⟨request, reply, own, rfl, -⟩ := told
      · cases hm
      · obtain rfl := List.mem_singleton.1 hm
        simp [Message.target?, target_of_management own]
  | describeSecret secret =>
    obtain ⟨ms, h, ⟨rfl, -⟩ | ⟨request, reply, own, rfl, -⟩⟩ :=
      perform_recorded (k := k) c.secrets (Aws.SecretsManager.describeSecret secret)
        (·.map Aws.SecretsManager.description) secret s log rfl
    · exact ⟨[], h, .other (fun _ _ => nofun) nofun⟩
    · exact ⟨_, h, .other (fun _ _ => nofun) (targets_of_request? own "DescribeSecret" rfl (by decide))⟩
  | getSecretValue secret selector =>
    obtain ⟨ms, h, ⟨rfl, e, he⟩ | ⟨request, reply, own, rfl, ha⟩⟩ :=
      perform_recorded (k := k) c.secrets (getSecretValue secret selector) Aws.SecretsManager.found secret s log rfl
    · refine ⟨[], h, ?_⟩
      show Carried c ⟨.getSecretValue secret selector,
        (Clients.aboutSecret secret (c.secrets.get k.services secret selector s)).1⟩ _
      unfold Aws.SecretsManager.get
      rw [he]
      exact .unsent
    · refine ⟨_, h, ?_⟩
      show Carried c ⟨.getSecretValue secret selector,
        (Clients.aboutSecret secret (c.secrets.get k.services secret selector s)).1⟩ _
      unfold Aws.SecretsManager.get
      rw [ha]
      exact .lookedUp own (Aws.SecretsManager.reading_received secret selector reply)
  | putSecretValue secret token value stage =>
    obtain ⟨ms, h, ⟨rfl, -⟩ | ⟨request, reply, own, rfl, -⟩⟩ :=
      perform_recorded (k := k) c.secrets (putSecretValue secret token value stage) (·.map fun _ => ()) secret s log rfl
    · exact ⟨[], h, .other (fun _ _ => nofun) nofun⟩
    · exact ⟨_, h, .stored own⟩
  | getRandomPassword exclude =>
    obtain ⟨ms, h, ⟨rfl, -⟩ | ⟨request, reply, own, rfl, -⟩⟩ :=
      perform_recorded (k := k) c.secrets (Aws.SecretsManager.getRandomPassword exclude)
        (·.bind Aws.SecretsManager.randomPassword) Aws.SecretsManager.passwordName s log rfl
    · exact ⟨[], h, .other (fun _ _ => nofun) nofun⟩
    · exact ⟨_, h, .other (fun _ _ => nofun) (targets_of_request? own "GetRandomPassword" rfl (by decide))⟩
  | promote secret target source =>
    obtain ⟨ms, h, ⟨rfl, -⟩ | ⟨request, reply, own, rfl, -⟩⟩ :=
      perform_recorded (k := k) c.secrets (Aws.SecretsManager.updateVersionStage secret target source)
        (·.map fun _ => ()) secret s log rfl
    · exact ⟨[], h, .other (fun _ _ => nofun) nofun⟩
    · exact ⟨_, h, .other (fun _ _ => nofun) (targets_of_request? own "UpdateSecretVersionStage" rfl (by decide))⟩

/-! ## A run -/

/-- **A run does not notice that its messages are written down**, and they fall into parts, one for each call. -/
theorem run_recorded (c : Clients) (k : Connections σ) (p : Plan α) (s : σ) (log : List Message) :
    ∃ parts, List.Forall₂ (Carried c) (p.exchanges (c.backend k) s) parts ∧
      (p.run (c.backend k.recorded) (s, log)).result = (p.run (c.backend k) s).result ∧
      (p.run (c.backend k.recorded) (s, log)).state =
        ((p.run (c.backend k) s).state, log ++ parts.flatten) := by
  induction p generalizing s log with
  | done result => exact ⟨[], .nil, rfl, by simp [Plan.run]⟩
  | call call next ih =>
    obtain ⟨ms, h, carried⟩ := backend_recorded c k call s log
    obtain ⟨parts, hparts, hresult, hstate⟩ := ih (c.backend k call s).1 (c.backend k call s).2 (log ++ ms)
    refine ⟨ms :: parts, .cons carried hparts, ?_, ?_⟩
    · unfold Plan.run
      simp only [h, hresult]
    · unfold Plan.run
      simp only [h, hstate, List.flatten_cons, List.append_assoc]

theorem messages_eq (c : Clients) (k : Connections σ) (p : Plan α) (s : σ) :
    ∃ parts, List.Forall₂ (Carried c) (p.exchanges (c.backend k) s) parts ∧ c.messages k p s = parts.flatten := by
  obtain ⟨parts, hparts, -, hstate⟩ := run_recorded c k p s []
  refine ⟨parts, hparts, ?_⟩
  unfold Clients.messages
  rw [hstate, List.nil_append]

/-! ## One message -/

variable {xs : List Exchange} {parts : List (List Message)} {before after : List Message} {m : Message} {x : Exchange}
  {request : Aws.Request} {reply : Option Aws.Reply}

/-- A message in a record is in the part of one call; what is before it is of this call or an earlier one. -/
theorem carried_split (h : List.Forall₂ (Carried c) xs parts) (split : parts.flatten = before ++ m :: after) :
    ∃ earlier x later ps first last qs, xs = earlier ++ x :: later ∧ List.Forall₂ (Carried c) earlier ps ∧
      Carried c x (first ++ m :: last) ∧ List.Forall₂ (Carried c) later qs ∧ before = ps.flatten ++ first ∧
      after = last ++ qs.flatten := by
  induction h generalizing before with
  | nil => cases before <;> cases split
  | @cons x part xs parts carried rest ih =>
    rw [List.flatten_cons] at split
    obtain ⟨ws, rfl, hws⟩ | ⟨ws, hpart, hws⟩ := List.append_eq_append_iff.1 split
    · obtain ⟨earlier, y, later, ps, first, last, qs, rfl, hearlier, hy, hlater, rfl, rfl⟩ := ih hws
      exact ⟨x :: earlier, y, later, part :: ps, first, last, qs, rfl, .cons carried hearlier, hy, hlater,
        by simp, rfl⟩
    · cases ws with
      | nil =>
        obtain ⟨earlier, y, later, ps, first, last, qs, rfl, hearlier, hy, hlater, hb, rfl⟩ :=
          @ih [] hws.symm
        rw [List.append_nil] at hpart
        refine ⟨x :: earlier, y, later, part :: ps, first, last, qs, rfl, .cons carried hearlier, hy, hlater, ?_, rfl⟩
        rw [List.flatten_cons, List.append_assoc, ← hb, List.append_nil, hpart]
      | cons m' ws =>
        obtain ⟨rfl, rfl⟩ := List.cons.inj hws
        exact ⟨[], x, xs, [], before, ws, parts, rfl, .nil, hpart ▸ carried, rest, rfl, rfl⟩

theorem only_message {first last : List Message} {m' : Message} (h : first ++ m :: last = [m']) :
    first = [] ∧ m = m' ∧ last = [] := by
  cases first with
  | nil =>
    cases h
    exact ⟨rfl, rfl, rfl⟩
  | cons y first => cases first <;> cases (List.cons.inj h).2

theorem lookedUp_of_target {first last : List Message} (h : Carried c x (first ++ .service request reply :: last))
    (target : request.target = some getTarget) :
    ∃ secret selector answer, x = ⟨.getSecretValue secret selector, answer⟩ ∧ first = [] ∧ last = [] ∧
      c.secrets.request? (getSecretValue secret selector) = some request ∧ Reading secret selector reply answer := by
  generalize hms : first ++ Message.service request reply :: last = ms at h
  cases h with
  | unsent => cases first <;> cases hms
  | lookedUp own reading =>
    obtain ⟨rfl, hm, rfl⟩ := only_message hms
    cases hm
    exact ⟨_, _, _, rfl, rfl, rfl, own, reading⟩
  | stored own =>
    obtain ⟨rfl, hm, rfl⟩ := only_message hms
    cases hm
    have named : some ("secretsmanager." ++ "PutSecretValue") = some getTarget :=
      (target_of_request? own).symm.trans target
    exact absurd named (by decide)
  | other call targets =>
    subst hms
    exact absurd target (targets _ (List.mem_append_right _ List.mem_cons_self)).1

theorem stored_of_target {first last : List Message} (h : Carried c x (first ++ .service request reply :: last))
    (target : request.target = some putTarget) :
    ∃ secret token value stage answer, x = ⟨.putSecretValue secret token value stage, answer⟩ ∧ first = [] := by
  generalize hms : first ++ Message.service request reply :: last = ms at h
  cases h with
  | unsent => cases first <;> cases hms
  | lookedUp own reading =>
    obtain ⟨rfl, hm, rfl⟩ := only_message hms
    cases hm
    have named : some ("secretsmanager." ++ "GetSecretValue") = some putTarget :=
      (target_of_request? own).symm.trans target
    exact absurd named (by decide)
  | stored own =>
    obtain ⟨rfl, -, rfl⟩ := only_message hms
    exact ⟨_, _, _, _, _, rfl, rfl⟩
  | other call targets =>
    subst hms
    exact absurd target (targets _ (List.mem_append_right _ List.mem_cons_self)).2

/-- A look-up that was answered with a value, or that there is none, is behind one message. -/
theorem message_of_answer {secret : String} {selector : Selector} {found : Option SecretValue}
    (h : List.Forall₂ (Carried c) xs parts) (mem : ⟨.getSecretValue secret selector, .ok found⟩ ∈ xs) :
    ∃ request reply, c.secrets.request? (getSecretValue secret selector) = some request ∧
      .service request reply ∈ parts.flatten ∧ Reading secret selector reply (.ok found) := by
  induction h with
  | nil => cases mem
  | @cons x part xs parts carried rest ih =>
    obtain rfl | mem := List.mem_cons.1 mem
    · cases carried with
      | lookedUp own reading => exact ⟨_, _, own, by simp, reading⟩
      | other call _ => exact absurd rfl (call _ _)
    · obtain ⟨request, reply, own, hm, reading⟩ := ih mem
      exact ⟨request, reply, own, by simp [hm], reading⟩

end SearchDomain
