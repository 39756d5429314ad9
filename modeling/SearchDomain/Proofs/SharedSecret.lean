import SearchDomain.Proofs.Bootstrap.FixedSecrets
import SearchDomain.Proofs.Rotation.Agreement
import SearchDomain.Proofs.Rotation.Promotion
/-!
# SharedSecret — one secret that is rotated and that the bootstrap reads

A create or an update gives a user the password in the current version of its secret. Between the push of a new
password and its promotion that is still the old one, and nothing keeps an update from coming in between
(`update_restores_password`). If the domain takes the user from no create and no update that comes after the last push,
the password is that of the promoted version, whatever else has happened (`promoted_password`).
-/
namespace SearchDomain.SharedSecret

open Plan SecretStore Rotation

/-- What is handled: a step of the rotation, or a create or an update, which have the configuration applied. -/
inductive Invocation
  | rotate (step : RotationStep)
  | update (event : LifecycleEvent) (creates : Bootstrap.Creates event)

structure Handled where
  invocation : Invocation
  exchanges : List Exchange
  result : Except Error Unit

section
variable (exclude secret token : String) (p : Bootstrap.Parameters)

def Invocation.plan : Invocation → Plan Unit
  | rotate step => handle exclude (eventFor secret token step)
  | update event _ => do let _ ← Bootstrap.handle p event

def handled {σ : Type} (backend : Backend σ) : List Invocation → σ → List Handled
  | [], _ => []
  | i :: rest, s =>
    ⟨i, (i.plan exclude secret token p).exchanges backend s, ((i.plan exclude secret token p).run backend s).result⟩ ::
      handled backend rest ((i.plan exclude secret token p).run backend s).state

def reached {σ : Type} (backend : Backend σ) (invocations : List Invocation) (s : σ) : σ :=
  stateAfter backend (Invocation.plan exclude secret token p) invocations s

end

def rotations (history : List Handled) : List Attempt :=
  history.filterMap fun h =>
    match h.invocation with
    | .rotate step => some ⟨step, h.result⟩
    | .update _ _ => none

/-- The domain has taken the new password. -/
def Handled.sets (h : Handled) : Bool :=
  match h.invocation, h.result with
  | .rotate .set, .ok () => true
  | _, _ => false

/-- What has been handled since the domain last took the new password. -/
def sinceSet (history : List Handled) : List Handled :=
  history.foldl (fun since h => if h.sets then [] else since ++ [h]) []

def promotes (secret token : String) : Call → Bool
  | .promote s t _ => decide (s = secret) && decide (t = token)
  | _ => false

/-- A request to put something at a path that was accepted. -/
def puts (path : String) : Exchange → Bool
  | ⟨.send request, .ok response⟩ =>
    response.isSuccess && decide (request.method = .put) && decide (request.path = path)
  | _ => false

/-- A create or an update of which the domain has taken the user. -/
def Handled.overwrites (username : String) (h : Handled) : Bool :=
  match h.invocation with
  | .rotate _ => false
  | .update _ _ => h.exchanges.any (puts (DomainApi.Path.internalUser username))

theorem sinceSet_append (history : List Handled) (h : Handled) :
    sinceSet (history ++ [h]) = if h.sets then [] else sinceSet history ++ [h] := by
  unfold sinceSet
  rw [List.foldl_append]
  rfl

theorem rotations_append (history : List Handled) (h : Handled) :
    rotations (history ++ [h]) = rotations history ++ rotations [h] := List.filterMap_append

/-! ## Creates and updates -/

variable {exclude secret token : String} {p : Bootstrap.Parameters} {event : LifecycleEvent}
  {store store' : SecretStore}
  {users : Passwords} {xs : List Exchange} {history : List Handled}

theorem method_of_createSteps {admin user : Credential} {objects : List SavedObject} {step : Bootstrap.Step}
    (hm : step ∈ Bootstrap.createSteps p admin user objects) {request : DomainApi.Request}
    (hcall : step.call = .send request) : request.method = .put ∨ request.method = .post := by
  simp only [Bootstrap.createSteps, Bootstrap.userSteps, List.mem_append, List.mem_cons, List.not_mem_nil, or_false,
    List.mem_map] at hm
  rcases hm with (((((rfl | rfl | rfl) | rfl | rfl) | rfl | rfl) | ⟨t, -, rfl⟩) | rfl)
  all_goals cases hcall
  case inr => exact .inr rfl
  all_goals exact .inl rfl

theorem yields_update {r : Except Error Unit} (h : Yields (do let _ ← Bootstrap.handle p event) xs r) :
    ∃ r', Yields (Bootstrap.handle p event) xs r' := by
  rcases yields_bind_iff.1 h with ⟨e, h₁, -⟩ | ⟨response, ys, zs, h₁, h₂, rfl⟩
  · exact ⟨_, h₁⟩
  · obtain ⟨rfl, -⟩ := yields_pure_iff.1 h₂
    rw [List.append_nil]
    exact ⟨_, h₁⟩

theorem method_of_yields {r : Except Error LifecycleResponse} (creates : Bootstrap.Creates event)
    (h : Yields (Bootstrap.handle p event) xs r) {request : DomainApi.Request}
    {answer : Except Error DomainApi.Response}
    (hx : ⟨.send request, answer⟩ ∈ xs) : request.method = .put ∨ request.method = .post := by
  obtain ⟨kind, known⟩ := creates.known
  obtain ⟨admin, user, objects, course⟩ := Bootstrap.upToFailure_of_yields known h
  rw [(Bootstrap.steps_create creates _ _ _).1] at course
  have hcall := course.calls_prefix.subset (List.mem_map_of_mem (f := (·.call)) hx)
  obtain ⟨step, hm, hstep⟩ := List.mem_map.1 hcall
  exact method_of_createSteps hm hstep

theorem foldl_after_of_forall {path : String} (h : ∀ x ∈ xs, ∀ users : Passwords, users.after x path = users path) :
    xs.foldl Passwords.after users path = users path := by
  induction xs generalizing users with
  | nil => rfl
  | cons x xs ih =>
    rw [List.foldl_cons, ih fun y hy => h y (List.mem_cons_of_mem _ hy)]
    exact h x List.mem_cons_self users

/-- A create or an update of which the domain has not taken the user leaves the user its password. -/
theorem user_of_update {r : Except Error LifecycleResponse} {username : String} (creates : Bootstrap.Creates event)
    (h : Yields (Bootstrap.handle p event) xs r) (result : Except Error Unit)
    (spared : Handled.overwrites username ⟨.update event creates, xs, result⟩ = false) :
    xs.foldl Passwords.after users (DomainApi.Path.internalUser username) =
      users (DomainApi.Path.internalUser username) := by
  refine foldl_after_of_forall fun x hx users => ?_
  by_cases accepted : Passwords.Accepted x
  · obtain ⟨request, response, rfl, success⟩ := accepted
    unfold Passwords.after
    simp only [if_pos success]
    unfold Passwords.accept
    split
    · rename_i path
      -- only a put could give a password here
      rcases method_of_yields creates h hx with put | post
      · have hputs := List.any_eq_false.1 spared _ hx
        simp [puts, success, put, path] at hputs
      · have none : request.password? = none := by
          unfold DomainApi.Request.password?
          rw [post]
        rw [none]
        rfl
    · rfl
  · rw [Passwords.after_of_not_accepted users accepted]

/-! ## Where the rotation stands -/

/-- Where the rotation of a version stands: it is past, or no password has been pushed, or one has and the user has it
as long as no create and no update has put the user. -/
inductive Standing (secret token : String) (history : List Handled) (store : SecretStore) (users : Passwords) : Prop
  | past (past : Past store secret token)
  | unset (unset : ¬ Succeeded .set (rotations history))
  | taken (credential : Credential) (holds : Holds store secret token credential)
      (user : (∀ h ∈ sinceSet history, h.overwrites credential.username = false) →
        users (DomainApi.Path.internalUser credential.username) = some credential.password)

/-- What neither takes a new password nor touches a user leaves the rotation where it is. -/
theorem Standing.kept (standing : Standing secret token history store users) {h : Handled} {users' : Passwords}
    (same : h.sets = false) (unset : Succeeded .set (rotations [h]) → False)
    (user : ∀ username, h.overwrites username = false →
      users' (DomainApi.Path.internalUser username) = users (DomainApi.Path.internalUser username)) :
    Standing secret token (history ++ [h]) store users' := by
  cases standing with
  | past past => exact .past past
  | unset unset' =>
    refine .unset fun succeeded => ?_
    rw [rotations_append] at succeeded
    exact (List.mem_append.1 succeeded).elim unset' unset
  | taken credential holds taken =>
    refine .taken credential holds fun clean => ?_
    rw [sinceSet_append, same] at clean
    rw [user _ (clean h (List.mem_append_right _ (List.mem_singleton_self h)))]
    exact taken fun h' hh => clean h' (List.mem_append_left _ hh)

theorem Standing.update (standing : Standing secret token history store users) (creates : Bootstrap.Creates event)
    {r : Except Error LifecycleResponse} (h : Yields (Bootstrap.handle p event) xs r) (result : Except Error Unit) :
    Standing secret token (history ++ [⟨.update event creates, xs, result⟩]) store (xs.foldl Passwords.after users) :=
  standing.kept rfl (fun succeeded => nomatch succeeded) fun _ => user_of_update creates h result

theorem rotations_rotate (step : RotationStep) (xs : List Exchange) (r : Except Error Unit) :
    rotations [⟨.rotate step, xs, r⟩] = [⟨step, r⟩] := rfl

/-- A step that does not push a password leaves the rotation where it is, if it changes nothing. -/
theorem Standing.rotate_kept (standing : Standing secret token history store users) {step : RotationStep}
    {r : Except Error Unit} (unset : (⟨step, r⟩ : Attempt) ≠ ⟨.set, .ok ()⟩) :
    Standing secret token (history ++ [⟨.rotate step, xs, r⟩]) store users := by
  refine standing.kept ?_ (fun succeeded => ?_) fun _ _ => rfl
  · cases r with
    | error e => cases step <;> rfl
    | ok u =>
      cases step with
      | set => exact absurd rfl unset
      | _ => rfl
  · rw [rotations_rotate] at succeeded
    exact unset (List.mem_singleton.1 succeeded).symm

/-- **A step leads from one standing to another**, whatever comes of it. -/
theorem Standing.rotate (standing : Standing secret token history store users) {step : RotationStep}
    {r : Except Error Unit} (accounted : Accounted exclude (eventFor secret token step) store xs r store') :
    Standing secret token (history ++ [⟨.rotate step, xs, r⟩]) store' (xs.foldl Passwords.after users) := by
  have hstep : (eventFor secret token step).step = .ok step := step.ofName_name
  rcases accounted with ⟨rfl, effect⟩ | ⟨⟨e, rfl⟩, rfl, unaccepted⟩
  · cases effect with
    | finished current => exact .past fun _ => current
    | kept step' =>
      cases hstep.symm.trans step'
      exact standing.rotate_kept (by decide)
    | @stored description found current password step' pending absent =>
      cases hstep.symm.trans step'
      cases standing with
      | past past => exact absurd pending (not_pending_of_past past)
      | unset unset =>
        refine .unset fun succeeded => ?_
        rw [rotations_append, rotations_rotate] at succeeded
        exact (List.mem_append.1 succeeded).elim unset (by simp)
      | taken credential holds =>
        obtain ⟨text, value, -⟩ := holds
        cases absent.symm.trans value
    | @set description found credential response step' pending value read success =>
      cases hstep.symm.trans step'
      exact .taken credential ⟨found.text, value, read⟩ fun _ => user_of_taken users credential success
    | tested step' =>
      cases hstep.symm.trans step'
      exact standing.rotate_kept (by decide)
    | promoted step' pending =>
      obtain ⟨v, hv, -⟩ := pending.carries
      exact .past fun _ => current_promote hv
  · rw [Passwords.foldl_after_of_not_accepted unaccepted]
    exact standing.rotate_kept fun h => nomatch congrArg Attempt.result h

/-! ## Runs -/

variable {σ : Type} {backend : Backend σ} {view : σ → SecretStore}

theorem handled_append (backend : Backend σ) (before after : List Invocation) (s : σ) :
    handled exclude secret token p backend (before ++ after) s = handled exclude secret token p backend before s ++
      handled exclude secret token p backend after (reached exclude secret token p backend before s) := by
  induction before generalizing s with
  | nil => rfl
  | cons i before ih => exact congrArg (_ :: ·) (ih _)

theorem standing_handled (serves : Serves backend view) (exclude : String) (p : Bootstrap.Parameters) :
    ∀ (invocations : List Invocation) {history : List Handled}
    {s : σ × Passwords}, (view s.1).LoneCurrent → Standing secret token history (view s.1) s.2 →
      let last := reached exclude secret token p (withUsers backend) invocations s
      (view last.1).LoneCurrent ∧ Standing secret token
        (history ++ handled exclude secret token p (withUsers backend) invocations s) (view last.1) last.2
  | [], history, s, lone, standing => by
    refine ⟨lone, ?_⟩
    rw [show handled exclude secret token p (withUsers backend) [] s = [] from rfl, List.append_nil]
    exact standing
  | .rotate step :: rest, history, s, lone, standing => by
    have accounted := accounted_run (serves.withUsers) exclude (eventFor secret token step) (s := s) lone.ordered
    have standing' := standing.rotate accounted
    rw [← users_run] at standing'
    have others := standing_handled serves exclude p rest (accounted.loneCurrent lone) standing'
    rw [List.append_assoc] at others
    exact others
  | .update event creates :: rest, history, s, lone, standing => by
    have yields := yields_exchanges (withUsers backend)
      (Invocation.plan exclude secret token p (.update event creates)) s
    obtain ⟨r', yields'⟩ := yields_update yields
    -- a bootstrap reads secrets only, so the rotation stands against the same store
    have unchanged := (follows_quiet (serves.withUsers.follows _ s) (Bootstrap.quiet_of_yields yields')).1
    have standing' := standing.update creates yields'
      ((Invocation.plan exclude secret token p (.update event creates)).run (withUsers backend) s).result
    rw [← users_run, ← unchanged] at standing'
    have others := standing_handled serves exclude p rest (unchanged.symm ▸ lone) standing'
    rw [List.append_assoc] at others
    exact others

theorem closed_of_inOrder : ∀ (attempts : List Attempt) {before : List Attempt}, Closed before →
    InOrder before attempts → Closed (before ++ attempts)
  | [], before, closed, _ => by
    rw [List.append_nil]
    exact closed
  | attempt :: rest, before, closed, ⟨allowed, inOrder⟩ => by
    have closed' := closed_of_inOrder rest (closed.append (r := attempt.result) allowed) inOrder
    rw [List.append_assoc] at closed'
    exact closed'

theorem inOrder_append {before attempts rest : List Attempt} :
    InOrder before (attempts ++ rest) ↔ InOrder before attempts ∧ InOrder (before ++ attempts) rest := by
  induction attempts generalizing before with
  | nil =>
    rw [List.nil_append, List.append_nil]
    exact ⟨fun h => ⟨trivial, h⟩, And.right⟩
  | cons attempt attempts ih =>
    show _ ∧ InOrder (before ++ [attempt]) (attempts ++ rest) ↔ (_ ∧ InOrder (before ++ [attempt]) attempts) ∧ _
    rw [ih, and_assoc, List.append_assoc]
    rfl

/-- Before a rotation is finished, the domain has taken its password. -/
theorem set_of_inOrder {attempts : List Attempt} {r : Except Error Unit}
    (inOrder : InOrder [] (attempts ++ [⟨.finish, r⟩])) : Succeeded .set attempts := by
  obtain ⟨before, allowed, -⟩ := inOrder_append.1 inOrder
  have closed : Closed attempts := closed_of_inOrder attempts (fun _ h => by cases h) before
  exact closed _ (allowed .test rfl) .set rfl

/-- An event that has made a version current has met it pending, and has sent nothing to the domain. -/
theorem promoted_of_effect {event : RotationEvent}
    (effect : Effect exclude event store xs store') (hm : (xs.map (·.call)).any (promotes secret token) = true) :
    Pending store event.secret event.token ∧ (∃ source, store' = (store.promote event.secret event.token source).2) ∧
      ∀ users : Passwords, xs.foldl Passwords.after users = users := by
  cases effect with
  | promoted step pending => exact ⟨pending, ⟨_, rfl⟩, fun _ => rfl⟩
  | _ => simp [promotes] at hm

/-- **The password is that of the promoted version**, in any order of steps, creates and updates, whatever they are
answered: when the last step of a rotation has made its version current, that version alone is current, it holds a
credential, and the user has its password unless the domain has taken the user from a create or an update since it last
took the new password. -/
theorem promoted_password (serves : Serves backend view) (exclude secret token : String) (p : Bootstrap.Parameters)
    (invocations : List Invocation) {s : σ × Passwords} (lone : (view s.1).LoneCurrent)
    (inOrder : InOrder [] (rotations
      (handled exclude secret token p (withUsers backend) (invocations ++ [.rotate .finish]) s)))
    (ok : ((handle exclude (eventFor secret token .finish)).run (withUsers backend)
      (reached exclude secret token p (withUsers backend) invocations s)).result = .ok ())
    (promoted : ((handle exclude (eventFor secret token .finish)).run (withUsers backend)
      (reached exclude secret token p (withUsers backend) invocations s)).calls.any (promotes secret token) = true) :
    let history := handled exclude secret token p (withUsers backend) (invocations ++ [.rotate .finish]) s
    let last := reached exclude secret token p (withUsers backend) (invocations ++ [.rotate .finish]) s
    (∀ id, (view last.1).Carries secret .current id ↔ id = token) ∧ ∃ credential,
      Holds (view last.1) secret token credential ∧
        ((∀ h ∈ sinceSet history, h.overwrites credential.username = false) →
          last.2 (DomainApi.Path.internalUser credential.username) = some credential.password) := by
  intro history last
  have initial : Standing secret token [] (view s.1) s.2 := .unset fun h => nomatch h
  obtain ⟨lone₁, standing⟩ := standing_handled serves exclude p invocations lone initial
  rw [List.nil_append] at standing
  have hhistory : history = handled exclude secret token p (withUsers backend) invocations s ++ _ :=
    handled_append (withUsers backend) invocations [.rotate .finish] s
  have hlast : last = ((handle exclude (eventFor secret token .finish)).run (withUsers backend)
      (reached exclude secret token p (withUsers backend) invocations s)).state :=
    stateAfter_append (withUsers backend) _ invocations [.rotate .finish] s
  have accounted := accounted_run serves.withUsers exclude (eventFor secret token .finish) lone₁.ordered
  have lone₂ := accounted.loneCurrent lone₁
  rw [calls_exchanges] at promoted
  rw [ok] at accounted
  obtain ⟨-, effect⟩ | ⟨⟨e, he⟩, -⟩ := accounted
  · obtain ⟨pending, ⟨source', hstore⟩, husers⟩ := promoted_of_effect effect promoted
    obtain ⟨v, hv, -⟩ := pending.carries
    have current : (view last.1).Carries secret .current token := by
      rw [hlast, hstore]
      exact current_promote hv
    refine ⟨(hlast ▸ lone₂).carries_iff current, ?_⟩
    cases standing with
    | past past => exact absurd pending (not_pending_of_past past)
    | unset unset =>
      -- the last step would be out of order
      rw [handled_append, handled, handled, rotations_append] at inOrder
      exact absurd (set_of_inOrder inOrder) unset
    | taken credential holds user =>
      refine ⟨credential, ?_, fun clean => ?_⟩
      · obtain ⟨text, value, read⟩ := holds
        refine ⟨text, ?_, read⟩
        rw [hlast, hstore]
        exact (value?_promote hv secret token).trans value
      · rw [hlast, users_run, husers]
        rw [hhistory, show handled exclude secret token p (withUsers backend) [.rotate .finish] _ = [_] from rfl,
          sinceSet_append] at clean
        exact user fun h hh => clean h (List.mem_append_left _ hh)
  · cases he

/-! ## An update in between -/

/-- A domain with an admin, and with a user whose secret has been announced a new version. -/
def sharing (replies : List Rehearsal.Reply) : Rehearsal.World × Passwords :=
  ({ replies, store := ("d", ⟨false, [("v", ⟨some (Credential.mk "admin" "a").toText, [Stage.current.label]⟩)]⟩) ::
      (announced none).store },
    fun path => if path = DomainApi.Path.internalUser "u" then some "p" else none)

def parameters : Bootstrap.Parameters := ⟨"domain", "role", "d", "s"⟩

def update : Invocation := .update { requestType := "Update" } (.inr (by decide))

/-- A whole rotation, with an update between the push of the new password and its promotion. -/
def inBetween : List Invocation := [.rotate .create, .rotate .set, .rotate .test, update]

/-- An update that the domain refuses before it comes to the user does no harm. -/
theorem promoted_password_refused :
    let refusing := sharing [{ key := "PUT _opendistro/_security/api/roles/pipeline_role", status := some 503 }]
    (reached "" "s" "t" parameters (withUsers Rehearsal.backend) (inBetween ++ [.rotate .finish]) refusing).2
      (DomainApi.Path.internalUser "u") = some Rehearsal.defaultPassword := by
  intro refusing
  obtain ⟨-, credential, holds, user⟩ := promoted_password serves_rehearsal "" "s" "t" parameters inBetween
    (s := refusing) (by decide +kernel) (by decide +kernel) (by decide +kernel) (by decide +kernel)
  have stored : Holds (reached "" "s" "t" parameters (withUsers Rehearsal.backend) (inBetween ++ [.rotate .finish])
      refusing).1.store "s" "t" ⟨"u", Rehearsal.defaultPassword⟩ :=
    ⟨(Credential.mk "u" Rehearsal.defaultPassword).toText, by decide +kernel, Credential.ofSecret_toText "s" _⟩
  rw [stored.unique holds] at user
  dsimp only at user
  exact user (by decide +kernel)

/-- **An update in between puts the old password back.** Every step and the update succeed, in order; the version that
has been promoted in the end holds the new password, and the user has the old one. -/
theorem update_restores_password :
    let all := inBetween ++ [.rotate .finish]
    let history := handled "" "s" "t" parameters (withUsers Rehearsal.backend) all (sharing [])
    let last := reached "" "s" "t" parameters (withUsers Rehearsal.backend) all (sharing [])
    (sharing []).1.store.Tidy ∧ InOrder [] (rotations history) ∧ (∀ h ∈ history, h.result = .ok ()) ∧
      (∃ h ∈ history, h.exchanges.any (promotes "s" "t" ·.call) = true) ∧
      (∀ id, last.1.store.Carries "s" .current id ↔ id = "t") ∧
      Holds last.1.store "s" "t" ⟨"u", Rehearsal.defaultPassword⟩ ∧
      last.2 (DomainApi.Path.internalUser "u") = some "p" ∧ Rehearsal.defaultPassword ≠ "p" := by
  intro all history last
  have run : (InOrder [] (rotations history) ∧ (∀ h ∈ history, h.result = .ok ()) ∧
      ∃ h ∈ history, h.exchanges.any (promotes "s" "t" ·.call) = true) ∧ last.1.store.Tidy ∧
      last.1.store.version? "s" "t" =
        some ⟨some (Credential.mk "u" Rehearsal.defaultPassword).toText, [Stage.current.label]⟩ ∧
      last.2 (DomainApi.Path.internalUser "u") = some "p" := by decide +kernel
  obtain ⟨⟨inOrder, ok, promoted⟩, tidy, version, old⟩ := run
  have current : last.1.store.Carries "s" .current "t" := ⟨_, version, List.mem_singleton_self _⟩
  have value : last.1.store.value? "s" "t" = some (Credential.mk "u" Rehearsal.defaultPassword).toText := by
    rw [value?, version]
    rfl
  exact ⟨by decide +kernel, inOrder, ok, promoted, tidy.carries_iff current,
    ⟨_, value, Credential.ofSecret_toText "s" _⟩, old, by decide +kernel⟩

end SearchDomain.SharedSecret
