import Mathlib.Data.List.Forall2
import SearchDomain.Bootstrap
import SearchDomain.Proofs.Exchange
import SearchDomain.Proofs.Payload
/-!
# Course — a bootstrap goes step by step up to the first failure

A create and a delete are lists of steps, each of which makes one call. What a step reads is part of the step, so that
later steps can be told from it. Whatever answers the calls, the steps pass one after the other until one of them
fails, and its failure is the result (`UpToFailure`). That plans in two parts do so if their parts do
(`Takes.bind`) is what all courses rest on.
-/
namespace SearchDomain.Bootstrap

open DomainApi (Request Response)
open Plan

inductive Step
  /-- Send a request that has to be answered with a success. -/
  | send (context : String) (request : Request)
  | enable (domain : String)
  /-- Read a credential. -/
  | read (secret : String) (credential : Credential)
  /-- Import a bundle, which makes these saved objects. -/
  | importing (bundle : Payload.Bundle) (objects : List SavedObject)

namespace Step

def call : Step → Call
  | send _ request => .send request
  | enable domain => .enableInternalUsers domain
  | read secret _ => .getSecretValue secret (.stage .current)
  | importing bundle _ => .send (importRequest bundle)

/-- An exchange in which a step does what it is there for. -/
inductive Passes : Step → Exchange → Prop
  | sent {context : String} {request : Request} {response : Response} (success : response.isSuccess = true) :
      Passes (.send context request) ⟨.send request, .ok response⟩
  | enabled {domain : String} : Passes (.enable domain) ⟨.enableInternalUsers domain, .ok ()⟩
  | read {secret : String} {credential : Credential} {value : SecretValue}
      (decoded : Credential.ofSecret secret value.text = .ok credential) :
      Passes (.read secret credential) ⟨.getSecretValue secret (.stage .current), .ok (some value)⟩
  | imported {bundle : Payload.Bundle} {response : Response} {reply : ImportReply} (success : response.isSuccess = true)
      (decoded : ImportReply.ofText response.body = .ok reply) (accepted : reply.success ≠ some false) :
      Passes (.importing bundle reply.results) ⟨.send (importRequest bundle), .ok response⟩

/-- An exchange in which a step fails, and the error by which it does. -/
inductive Fails : Step → Exchange → Error → Prop
  | erred (step : Step) (e : Error) : Fails step ⟨step.call, .error e⟩ e
  | refused {context : String} {request : Request} {response : Response} (failure : response.isSuccess = false) :
      Fails (.send context request) ⟨.send request, .ok response⟩
        (.configuration context response.status response.body)
  | missing (secret : String) (credential : Credential) :
      Fails (.read secret credential) ⟨.getSecretValue secret (.stage .current), .ok none⟩
        (.secretAccess secret "no AWSCURRENT version")
  | malformed {secret : String} {value : SecretValue} {e : Error} (credential : Credential)
      (malformed : Credential.ofSecret secret value.text = .error e) :
      Fails (.read secret credential) ⟨.getSecretValue secret (.stage .current), .ok (some value)⟩ e
  | importRefused {bundle : Payload.Bundle} {response : Response} (objects : List SavedObject)
      (failure : response.isSuccess = false) :
      Fails (.importing bundle objects) ⟨.send (importRequest bundle), .ok response⟩
        (.configuration importContext response.status response.body)
  | importUnreadable {bundle : Payload.Bundle} {response : Response} {e : Error} (objects : List SavedObject)
      (success : response.isSuccess = true) (unreadable : ImportReply.ofText response.body = .error e) :
      Fails (.importing bundle objects) ⟨.send (importRequest bundle), .ok response⟩ e
  | importRejected {bundle : Payload.Bundle} {response : Response} {reply : ImportReply} (objects : List SavedObject)
      (success : response.isSuccess = true) (decoded : ImportReply.ofText response.body = .ok reply)
      (rejected : reply.success = some false) :
      Fails (.importing bundle objects) ⟨.send (importRequest bundle), .ok response⟩
        (.configuration importContext response.status response.body)

theorem Passes.call {step : Step} {x : Exchange} (h : step.Passes x) : x.call = step.call := by
  cases h <;> rfl

theorem Fails.call {step : Step} {x : Exchange} {e : Error} (h : step.Fails x e) : x.call = step.call := by
  cases h <;> rfl

end Step

/-! ## Up to the first failure -/

section
variable {α β : Type} {steps rest : List Step} {final : α} {xs ys : List Exchange} {r : Except Error α}

/-- The steps pass one after the other to the last one, or up to one that fails with the error that is the result. -/
inductive UpToFailure (steps : List Step) (final : α) : List Exchange → Except Error α → Prop
  | completed {xs : List Exchange} (passed : List.Forall₂ Step.Passes steps xs) : UpToFailure steps final xs (.ok final)
  | failed {done rest : List Step} {step : Step} {taken : List Exchange} {x : Exchange} {e : Error}
      (split : steps = done ++ step :: rest) (passed : List.Forall₂ Step.Passes done taken) (fails : step.Fails x e) :
      UpToFailure steps final (taken ++ [x]) (.error e)

theorem map_call_of_passed (h : List.Forall₂ Step.Passes steps xs) : xs.map (·.call) = steps.map Step.call := by
  induction h with
  | nil => rfl
  | cons first _ ih => rw [List.map_cons, List.map_cons, ih, first.call]

/-- No call is skipped, repeated or moved. -/
theorem UpToFailure.calls_prefix (h : UpToFailure steps final xs r) : xs.map (·.call) <+: steps.map Step.call := by
  cases h with
  | completed passed => exact (map_call_of_passed passed) ▸ List.prefix_refl _
  | @failed done rest step taken x e split passed fails =>
    refine ⟨rest.map Step.call, ?_⟩
    rw [split, List.map_append, List.map_append, map_call_of_passed passed, List.map_cons, List.map_cons, fails.call]
    simp

theorem UpToFailure.passed_of_ok {x : α} (h : UpToFailure steps final xs (.ok x)) :
    List.Forall₂ Step.Passes steps xs ∧ x = final := by
  cases h with
  | completed passed => exact ⟨passed, rfl⟩

theorem UpToFailure.append_failed {e : Error} {last : β} (h : UpToFailure steps final xs (.error e)) :
    UpToFailure (steps ++ rest) last xs (.error e) := by
  cases h with
  | failed split passed fails =>
    rw [split, List.append_assoc, List.cons_append]
    exact .failed rfl passed fails

theorem UpToFailure.after {r : Except Error β} {last : β} (passed : List.Forall₂ Step.Passes steps xs)
    (h : UpToFailure rest last ys r) : UpToFailure (steps ++ rest) last (xs ++ ys) r := by
  cases h with
  | completed passed' => exact .completed (List.rel_append passed passed')
  | failed split passed' fails =>
    rw [split, ← List.append_assoc, ← List.append_assoc]
    exact .failed rfl (List.rel_append passed passed') fails

end

/-! ## Plans in steps -/

/-- What a secret may hold, as far as an exchange tells. -/
def Holding (held : String → Credential → Prop) (x : Exchange) : Prop :=
  ∀ secret credential, (Step.read secret credential).Passes x → held secret credential

/-- A plan takes steps, up to the first failure, and finishes with a value. Both may depend on what is read, where
secrets hold what they may. -/
def Takes {α ι : Type} (held : String → Credential → Prop) (p : Plan α) (steps : ι → List Step) (value : ι → α) :
    Prop :=
  ∀ xs r, Yields p xs r → (∀ x ∈ xs, Holding held x) → ∃ i, UpToFailure (steps i) (value i) xs r

namespace Takes

variable {α β ι κ : Type} {held : String → Credential → Prop} {p : Plan α} {f : α → Plan β} {steps : ι → List Step}
  {value : ι → α}

/-- **A plan in two parts takes the steps of both**, and none of the second part if the first one fails. -/
theorem bind [Nonempty κ] {steps' : ι → κ → List Step} {value' : ι → κ → β} (first : Takes held p steps value)
    (second : ∀ i, Takes held (f (value i)) (steps' i) (value' i)) :
    Takes held (p >>= f) (fun i : ι × κ => steps i.1 ++ steps' i.1 i.2) fun i => value' i.1 i.2 := by
  intro xs r yields holding
  rcases yields_bind_iff.1 yields with ⟨e, h₁, rfl⟩ | ⟨x, ys, zs, h₁, h₂, rfl⟩
  · obtain ⟨i, hi⟩ := first _ _ h₁ holding
    obtain ⟨k⟩ := ‹Nonempty κ›
    exact ⟨(i, k), hi.append_failed⟩
  · obtain ⟨i, hi⟩ := first _ _ h₁ fun x hx => holding x (List.mem_append_left _ hx)
    obtain ⟨passed, rfl⟩ := hi.passed_of_ok
    obtain ⟨k, hk⟩ := second i _ _ h₂ fun x hx => holding x (List.mem_append_right _ hx)
    exact ⟨(i, k), .after passed hk⟩

theorem congr {steps' : κ → List Step} {value' : κ → α} (h : Takes held p steps value)
    (same : ∀ i, ∃ k, steps' k = steps i ∧ value' k = value i) : Takes held p steps' value' := by
  intro xs r yields holding
  obtain ⟨i, hi⟩ := h _ _ yields holding
  obtain ⟨k, hs, hv⟩ := same i
  rw [← hs, ← hv] at hi
  exact ⟨k, hi⟩

theorem pure (x : α) : Takes held (Pure.pure x) (fun _ : Unit => []) fun _ => x := by
  intro xs r yields _
  obtain ⟨rfl, rfl⟩ := yields_pure_iff.1 yields
  exact ⟨(), .completed .nil⟩

theorem ofExcept {e : Except Error α} {x : α} (ok : e = .ok x) :
    Takes held (Plan.ofExcept e) (fun _ : Unit => []) fun _ => x := by
  rw [ok]
  exact pure x

/-- What takes one step for each element takes them in order. -/
theorem each {γ : Type} {f : γ → Plan Unit} {step : γ → Step}
    (h : ∀ x, Takes held (f x) (fun _ : Unit => [step x]) fun _ => ()) :
    ∀ elements, Takes held (Plan.each f elements) (fun _ : Unit => elements.map step) fun _ => ()
  | [] => pure ()
  | x :: elements => by
    have both := bind (f := fun _ => Plan.each f elements) (h x) fun _ => each h elements
    exact both.congr fun _ => ⟨(), rfl, rfl⟩

end Takes

/-! ## The steps of the parts -/

section
variable {held : String → Credential → Prop}

/-- A plan of one step passes or fails with it. -/
theorem upToFailure_one {α : Type} {step : Step} {final : α} {x : Exchange} {e : Error} (fails : step.Fails x e) :
    UpToFailure [step] final [x] (.error e) := by
  have h : UpToFailure ([] ++ step :: []) final ([] ++ [x]) (.error e) := .failed rfl .nil fails
  exact h

/-- A request is sent once, and has to be answered with a success. -/
theorem yields_sendChecked {context : String} {request : Request} {xs : List Exchange} {r : Except Error Response}
    (h : Yields (sendChecked context request) xs r) :
    (∃ e, xs = [⟨.send request, .error e⟩] ∧ r = .error e) ∨ ∃ response, xs = [⟨.send request, .ok response⟩] ∧
      (response.isSuccess = true ∧ r = .ok response ∨
        response.isSuccess = false ∧ r = .error (.configuration context response.status response.body)) := by
  rcases yields_perform_bind_iff.1 h with ⟨e, rfl, rfl⟩ | ⟨response, zs, rfl, checked⟩
  · exact .inl ⟨e, rfl, rfl⟩
  · obtain ⟨rfl, rfl⟩ := yields_ofExcept_iff.1 checked
    refine .inr ⟨response, rfl, ?_⟩
    unfold Response.ensureSuccess
    cases response.isSuccess with
    | true => exact .inl ⟨rfl, rfl⟩
    | false => exact .inr ⟨rfl, rfl⟩

theorem takes_sendChecked (context : String) (request : Request) :
    Takes held (sendChecked context request) (fun _ : Response => [.send context request]) id := by
  intro xs r yields _
  rcases yields_sendChecked yields with ⟨e, rfl, rfl⟩ | ⟨response, rfl, ⟨success, rfl⟩ | ⟨failure, rfl⟩⟩
  · exact ⟨⟨0, ""⟩, upToFailure_one (.erred _ e)⟩
  · exact ⟨response, .completed (.cons (.sent success) .nil)⟩
  · exact ⟨response, upToFailure_one (.refused failure)⟩

theorem takes_send (context : String) (request : Request) :
    Takes held (do let _ ← sendChecked context request) (fun _ : Unit => [.send context request]) fun _ => () :=
  ((takes_sendChecked context request).bind fun _ => .pure ()).congr fun _ => ⟨(), rfl, rfl⟩

theorem takes_readSecret (secret : String) [possible : Nonempty { c // held secret c }] :
    Takes held (readSecret secret) (fun c : { c // held secret c } => [.read secret c]) (·.1) := by
  intro xs r yields holding
  obtain ⟨c₀⟩ := possible
  rcases yields_perform_bind_iff.1 yields with ⟨e, rfl, rfl⟩ | ⟨found, zs, rfl, h⟩
  · exact ⟨c₀, upToFailure_one (.erred _ e)⟩
  cases found with
  | none =>
    obtain ⟨rfl, rfl⟩ := yields_fail_iff.1 h
    exact ⟨c₀, upToFailure_one (.missing secret c₀)⟩
  | some value =>
    obtain ⟨rfl, rfl⟩ := yields_ofExcept_iff.1 h
    cases decoded : Credential.ofSecret secret value.text with
    | error e => exact ⟨c₀, upToFailure_one (.malformed c₀ decoded)⟩
    | ok c =>
      have passes : (Step.read secret c).Passes _ := .read decoded
      exact ⟨⟨c, holding _ List.mem_cons_self secret c passes⟩, .completed (.cons passes .nil)⟩

theorem takes_enable (domain : String) :
    Takes held (perform (.enableInternalUsers domain)) (fun _ : Unit => [.enable domain]) fun _ => () := by
  intro xs r yields _
  obtain rfl := yields_perform_iff.1 yields
  cases r with
  | error e => exact ⟨(), upToFailure_one (.erred (.enable domain) e)⟩
  | ok x => exact ⟨(), .completed (.cons .enabled .nil)⟩

theorem takes_importObjects (bundle : Payload.Bundle) :
    Takes held (importObjects bundle) (fun objects => [.importing bundle objects]) id := by
  intro xs r yields _
  rcases yields_bind_iff.1 yields with ⟨e, h₁, rfl⟩ | ⟨response, ys, zs, h₁, h₂, rfl⟩
  · rcases yields_sendChecked h₁ with ⟨e', rfl, he⟩ | ⟨response, rfl, ⟨_, he⟩ | ⟨failure, he⟩⟩
    · cases he
      exact ⟨[], upToFailure_one (.erred (.importing bundle []) e)⟩
    · cases he
    · cases he
      exact ⟨[], upToFailure_one (.importRefused [] failure)⟩
  obtain ⟨rfl, success⟩ : ys = [⟨.send (importRequest bundle), .ok response⟩] ∧ response.isSuccess = true := by
    rcases yields_sendChecked h₁ with ⟨e, _, he⟩ | ⟨_, rfl, ⟨success, he⟩ | ⟨_, he⟩⟩
    · cases he
    · cases he
      exact ⟨rfl, success⟩
    · cases he
  rcases yields_bind_iff.1 h₂ with ⟨e, h₃, rfl⟩ | ⟨reply, ys, zs, h₃, h₄, rfl⟩
  · obtain ⟨rfl, unreadable⟩ := yields_ofExcept_iff.1 h₃
    exact ⟨[], upToFailure_one (.importUnreadable [] success unreadable.symm)⟩
  obtain ⟨rfl, decoded⟩ := yields_ofExcept_iff.1 h₃
  by_cases rejected : reply.success = some false
  · rw [if_pos rejected] at h₄
    obtain ⟨rfl, rfl⟩ := yields_fail_iff.1 h₄
    exact ⟨[], upToFailure_one (.importRejected [] success decoded.symm rejected)⟩
  · rw [if_neg rejected] at h₄
    obtain ⟨rfl, rfl⟩ := yields_pure_iff.1 h₄
    exact ⟨reply.results, .completed (.cons (.imported success decoded.symm rejected) .nil)⟩

/-! ## The steps of a create and of a delete -/

def putStep (context path : String) (document : Json) : Step :=
  .send context { method := .put, path, body := .json document }

def userSteps (user : Payload.InternalUser) (secret : String) (credential : Credential) : List Step :=
  [.read secret credential, putStep (secret ++ " creation") (DomainApi.Path.internalUser credential.username)
    (user.filled credential.password)]

def templateStep (t : Payload.IndexTemplate) : Step :=
  putStep (t.name ++ " index template creation") (DomainApi.Path.indexTemplate t.name) t.document

def createSteps (p : Parameters) (admin user : Credential) (objects : List SavedObject) : List Step :=
  [putStep "pipeline role creation" DomainApi.Path.pipelineRole Payload.pipelineRole,
    putStep "pipeline role mapping creation" DomainApi.Path.pipelineRoleMapping
      (Payload.mappingDocument p.pipelineRoleArn),
    .enable p.domainName] ++ userSteps .admin p.adminSecret admin ++ userSteps .readOnly p.userSecret user ++
  Payload.IndexTemplate.all.map templateStep ++ [.importing Payload.Dashboard.bundle objects]

def deleteStep (context path : String) : Step := .send context { method := .delete, path }

def userDeleteSteps (secret : String) (credential : Credential) : List Step :=
  [.read secret credential, deleteStep ("deleting " ++ secret) (DomainApi.Path.internalUser credential.username)]

def templateDeleteStep (t : Payload.IndexTemplate) : Step :=
  deleteStep ("deleting " ++ t.name ++ " index template") (DomainApi.Path.indexTemplate t.name)

def objectDeleteStep (o : SavedObject) : Step :=
  .send ("deleting " ++ o.kind ++ " " ++ o.id ++ " saved object")
    { method := .delete, path := DomainApi.Path.savedObject o.kind o.id, headers := [DomainApi.Path.dashboardsHeader] }

def removeSteps (p : Parameters) (admin user : Credential) (captured : List SavedObject) : List Step :=
  [deleteStep "deleting the pipeline role mapping" DomainApi.Path.pipelineRoleMapping,
    deleteStep "deleting the pipeline role" DomainApi.Path.pipelineRole] ++
  userDeleteSteps p.adminSecret admin ++ userDeleteSteps p.userSecret user ++
  Payload.IndexTemplate.all.map templateDeleteStep ++ captured.map objectDeleteStep

theorem takes_put (context path : String) (document : Json) :
    Takes held (putJson context path document) (fun _ : Unit => [putStep context path document]) fun _ => () :=
  takes_send context { method := .put, path, body := .json document }

theorem takes_delete (context path : String) :
    Takes held (delete context path) (fun _ : Unit => [deleteStep context path]) fun _ => () :=
  takes_send context { method := .delete, path }

theorem takes_createUser (user : Payload.InternalUser) (secret : String) [Nonempty { c // held secret c }] :
    Takes held (createUser user secret) (fun c : { c // held secret c } => userSteps user secret c) fun _ => () := by
  have put : ∀ c : { c // held secret c },
      Takes held (do
        let document ← ofExcept (user.document c.1.password)
        putJson (secret ++ " creation") (DomainApi.Path.internalUser c.1.username) document)
      (fun _ : Unit => [putStep (secret ++ " creation") (DomainApi.Path.internalUser c.1.username)
        (user.filled c.1.password)]) fun _ => () := fun c =>
    ((Takes.ofExcept (user.document_eq c.1.password)).bind fun _ => takes_put _ _ _).congr fun _ => ⟨(), rfl, rfl⟩
  exact ((takes_readSecret secret).bind put).congr fun i => ⟨i.1, rfl, rfl⟩

theorem takes_deleteUser (secret : String) [Nonempty { c // held secret c }] :
    Takes held (deleteUser secret) (fun c : { c // held secret c } => userDeleteSteps secret c) fun _ => () :=
  ((takes_readSecret secret).bind fun _ => takes_delete _ _).congr fun i => ⟨i.1, rfl, rfl⟩

/-- **A create takes the steps of a create**, whichever of the credentials that may be held are read. -/
theorem takes_create (p : Parameters) [Nonempty { c // held p.adminSecret c }] [Nonempty { c // held p.userSecret c }] :
    Takes held (create p)
      (fun i : { c // held p.adminSecret c } × { c // held p.userSecret c } × List SavedObject =>
        createSteps p i.1 i.2.1 i.2.2)
      fun i => .ofObjects i.2.2 := by
  have templates : Takes held (Plan.each createTemplate Payload.IndexTemplate.all)
      (fun _ : Unit => Payload.IndexTemplate.all.map templateStep) fun _ => () :=
    Takes.each (fun _ => takes_put _ _ _) _
  unfold create
  -- one line for each line of the plan
  refine Takes.congr (
    (takes_put _ _ _).bind fun _ =>
    (Takes.ofExcept (Payload.pipelineRoleMapping_eq _)).bind fun _ =>
    (takes_put _ _ _).bind fun _ =>
    (takes_enable _).bind fun _ =>
    (takes_createUser _ _).bind fun _ =>
    (takes_createUser _ _).bind fun _ =>
    templates.bind fun _ =>
    (takes_importObjects _).bind fun _ => .pure _) ?_
  rintro ⟨⟨⟩, ⟨⟩, ⟨⟩, ⟨⟩, admin, user, ⟨⟩, objects, ⟨⟩⟩
  exact ⟨(admin, user, objects), by simp [createSteps, List.append_assoc], rfl⟩

/-- **A delete takes the steps of a delete**, whichever of the credentials that may be held are read. -/
theorem takes_remove (p : Parameters) (captured : List SavedObject) [Nonempty { c // held p.adminSecret c }]
    [Nonempty { c // held p.userSecret c }] :
    Takes held (remove p captured)
      (fun i : { c // held p.adminSecret c } × { c // held p.userSecret c } => removeSteps p i.1 i.2 captured)
      fun _ => () := by
  have users : Takes held (Plan.each deleteUser [p.adminSecret, p.userSecret])
      (fun i : { c // held p.adminSecret c } × { c // held p.userSecret c } =>
        userDeleteSteps p.adminSecret i.1 ++ userDeleteSteps p.userSecret i.2) fun _ => () := by
    refine Takes.congr (Takes.bind (f := fun _ => Plan.each deleteUser [p.userSecret]) (takes_deleteUser _) fun _ =>
      Takes.bind (f := fun _ => Plan.each deleteUser []) (takes_deleteUser _) fun _ => .pure ()) ?_
    rintro ⟨admin, user, ⟨⟩⟩
    exact ⟨(admin, user), by simp, rfl⟩
  have templates : Takes held (Plan.each deleteTemplate Payload.IndexTemplate.all)
      (fun _ : Unit => Payload.IndexTemplate.all.map templateDeleteStep) fun _ => () :=
    Takes.each (fun _ => takes_delete _ _) _
  have objects : Takes held (Plan.each deleteObject captured) (fun _ : Unit => captured.map objectDeleteStep)
      fun _ => () := Takes.each (fun _ => takes_send _ _) _
  unfold remove
  refine Takes.congr (
    (takes_delete _ _).bind fun _ =>
    (takes_delete _ _).bind fun _ =>
    users.bind fun _ =>
    templates.bind fun _ => objects) ?_
  rintro ⟨⟨⟩, ⟨⟩, ⟨admin, user⟩, ⟨⟩, ⟨⟩⟩
  exact ⟨(admin, user), by simp [removeSteps, List.append_assoc], rfl⟩

theorem takes_removal (p : Parameters) (captured : List SavedObject) [Nonempty { c // held p.adminSecret c }]
    [Nonempty { c // held p.userSecret c }] :
    Takes held (do remove p captured; return ({} : LifecycleResponse))
      (fun i : { c // held p.adminSecret c } × { c // held p.userSecret c } => removeSteps p i.1 i.2 captured)
      fun _ => {} :=
  Takes.congr ((takes_remove p captured).bind fun _ => .pure _) fun i => ⟨i.1, (List.append_nil _).symm, rfl⟩

end

/-! ## Events -/

/-- An event that asks for a create, by either name. -/
def Creates (event : LifecycleEvent) : Prop := event.kind = .ok .create ∨ event.kind = .ok .update

instance (event : LifecycleEvent) : Decidable (Creates event) :=
  inferInstanceAs (Decidable (event.kind = .ok .create ∨ event.kind = .ok .update))

theorem Creates.known {event : LifecycleEvent} (h : Creates event) : ∃ kind, event.kind = .ok kind :=
  h.elim (fun h => ⟨_, h⟩) fun h => ⟨_, h⟩

theorem handle_create {p : Parameters} {event : LifecycleEvent} (h : Creates event) : handle p event = create p := by
  unfold handle
  rcases h with h | h <;> rw [h] <;> rfl

theorem handle_delete {p : Parameters} {event : LifecycleEvent} (h : event.kind = .ok .delete) :
    handle p event = (do remove p event.captured; return {}) := by
  unfold handle
  rw [h]
  rfl

theorem handle_unknown {p : Parameters} {event : LifecycleEvent} {e : Error} (h : event.kind = .error e) :
    handle p event = .done (.error e) := by
  unfold handle
  rw [h]
  rfl

theorem kind_error {event : LifecycleEvent} {e : Error} (h : event.kind = .error e) :
    e = .unsupportedRequestType event.requestType := by
  unfold LifecycleEvent.kind RequestKind.ofName at h
  split at h
  · cases h
  split at h
  · cases h
  split at h
  · cases h
  · cases h
    rfl

/-- The steps that an event asks for; an update is a create. -/
def steps (p : Parameters) (event : LifecycleEvent) (admin user : Credential) (objects : List SavedObject) :
    List Step :=
  match event.kind with
  | .ok .create => createSteps p admin user objects
  | .ok .update => createSteps p admin user objects
  | .ok .delete => removeSteps p admin user event.captured
  | .error _ => []

/-- The response to an event whose steps have all passed. -/
def completed (event : LifecycleEvent) (objects : List SavedObject) : LifecycleResponse :=
  match event.kind with
  | .ok .delete => {}
  | _ => .ofObjects objects

/-- Of a secret whose content is not known, nothing is excluded. -/
def anyHeld : String → Credential → Prop := fun _ _ => True

section
variable {p : Parameters} {event : LifecycleEvent}

theorem steps_create (h : Creates event) (admin user : Credential)
    (objects : List SavedObject) : steps p event admin user objects = createSteps p admin user objects ∧
      completed event objects = .ofObjects objects := by
  unfold steps completed
  rcases h with h | h <;> rw [h] <;> exact ⟨rfl, rfl⟩

theorem steps_delete (h : event.kind = .ok .delete) (admin user : Credential) (objects : List SavedObject) :
    steps p event admin user objects = removeSteps p admin user event.captured ∧ completed event objects = {} := by
  unfold steps completed
  rw [h]
  exact ⟨rfl, rfl⟩

/-- **An event takes the steps that it asks for**, whichever of the credentials that may be held are read. -/
theorem takes_handle {held : String → Credential → Prop} {kind : RequestKind} (known : event.kind = .ok kind)
    [Nonempty { c // held p.adminSecret c }] [Nonempty { c // held p.userSecret c }] :
    Takes held (handle p event)
      (fun i : { c // held p.adminSecret c } × { c // held p.userSecret c } × List SavedObject =>
        steps p event i.1 i.2.1 i.2.2)
      fun i => completed event i.2.2 := by
  have create : Creates event → Takes held (handle p event) _ _ := fun h => by
    rw [handle_create h]
    exact (takes_create p).congr fun i => ⟨i, steps_create h i.1 i.2.1 i.2.2⟩
  cases kind with
  | create => exact create (.inl known)
  | update => exact create (.inr known)
  | delete =>
    rw [handle_delete known]
    exact (takes_removal p event.captured).congr fun i => ⟨(i.1, i.2, []), steps_delete known i.1 i.2 []⟩

end

theorem upToFailure_of_yields {p : Parameters} {event : LifecycleEvent} {xs : List Exchange}
    {r : Except Error LifecycleResponse} {kind : RequestKind} (known : event.kind = .ok kind)
    (h : Yields (handle p event) xs r) :
    ∃ admin user objects, UpToFailure (steps p event admin user objects) (completed event objects) xs r := by
  have possible : ∀ secret, Nonempty { c // anyHeld secret c } := fun _ => ⟨⟨"", ""⟩, trivial⟩
  have := possible p.adminSecret
  have := possible p.userSecret
  have takes : Takes anyHeld (handle p event) _ _ := takes_handle known
  obtain ⟨⟨admin, user, objects⟩, course⟩ := takes xs r h fun _ _ _ _ _ => trivial
  exact ⟨admin, user, objects, course⟩

/-- **A bootstrap stops at the first failure and skips, repeats or moves no call.** Whatever answers them, the calls are
those of the first steps that the event asks for, each of which has passed but the last one, if the result is an error:
it is the error by which that step has failed. An event that asks for anything else is refused without a call. -/
theorem handle_upToFailure {σ : Type} (backend : Backend σ) (p : Parameters) (event : LifecycleEvent) (s : σ) :
    let outcome := (handle p event).run backend s
    let xs := (handle p event).exchanges backend s
    outcome.calls = xs.map (·.call) ∧
      match event.kind with
      | .error _ => xs = [] ∧ outcome.result = .error (.unsupportedRequestType event.requestType)
      | .ok _ => ∃ admin user objects,
          outcome.calls <+: (steps p event admin user objects).map Step.call ∧
            UpToFailure (steps p event admin user objects) (completed event objects) xs outcome.result := by
  intro outcome xs
  have calls : outcome.calls = xs.map (·.call) := calls_exchanges backend (handle p event) s
  refine ⟨calls, ?_⟩
  cases kind : event.kind with
  | error e =>
    constructor
    · show (handle p event).exchanges backend s = []
      rw [handle_unknown kind]
      rfl
    · show ((handle p event).run backend s).result = _
      rw [handle_unknown kind, ← kind_error kind]
      rfl
  | ok kind' =>
    obtain ⟨admin, user, objects, course⟩ := upToFailure_of_yields kind (yields_exchanges backend (handle p event) s)
    refine ⟨admin, user, objects, ?_, course⟩
    rw [calls]
    exact course.calls_prefix

end SearchDomain.Bootstrap
