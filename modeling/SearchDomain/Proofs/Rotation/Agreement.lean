import SearchDomain.Proofs.Credential
import SearchDomain.Proofs.Rotation.StoreInvariant
/-!
# Agreement — the secret store and the domain agree, through failures and retries

One rotation, attempt by attempt: each step is attempted as often as one likes, but never before the step that
precedes it has succeeded, and any call of any attempt may fail or be answered in any way. Where a rotation stands is
told by labels, value, password and past successes together (`Standing`); an attempt leads from one standing to
another, whatever comes of it (`standing_attempt`), and so do all attempts of a run.
-/
namespace SearchDomain

theorem Serves.withUsers {σ : Type} {backend : Plan.Backend σ} {view : σ → SecretStore} (serves : Serves backend view) :
    Serves (SearchDomain.withUsers backend) fun s => view s.1 :=
  fun c s => serves c s.1

/-- The step that has to succeed before a step is attempted. -/
def RotationStep.preceding? : RotationStep → Option RotationStep
  | create => none
  | set => some create
  | test => some set
  | finish => some test

namespace Rotation

open SecretStore Plan

/-! ## Attempts -/

/-- A step that was attempted, and what came of it. -/
structure Attempt where
  step : RotationStep
  result : Except Error Unit
  deriving DecidableEq

/-- A step has been attempted with success. -/
def Succeeded (step : RotationStep) (history : List Attempt) : Prop := ⟨step, .ok ()⟩ ∈ history

instance (step : RotationStep) (history : List Attempt) : Decidable (Succeeded step history) :=
  inferInstanceAs (Decidable (_ ∈ history))

/-- Attempts that come after `history`, each when the step before it has succeeded. -/
def InOrder : (history : List Attempt) → List Attempt → Prop
  | _, [] => True
  | history, attempt :: rest =>
    (∀ step ∈ attempt.step.preceding?, Succeeded step history) ∧ InOrder (history ++ [attempt]) rest

instance decidableInOrder : ∀ history attempts : List Attempt, Decidable (InOrder history attempts)
  | _, [] => .isTrue trivial
  | history, attempt :: rest => @instDecidableAnd _ _ _ (decidableInOrder (history ++ [attempt]) rest)

/-- The event for a step. -/
def eventFor (secret token : String) (step : RotationStep) : RotationEvent := ⟨secret, token, step.name⟩

/-- Attempt steps of one rotation, one after the other. -/
def attempts {σ : Type} (backend : Backend σ) (exclude secret token : String) : List RotationStep → σ → List Attempt
  | [], _ => []
  | step :: steps, s =>
    let outcome := (handle exclude (eventFor secret token step)).run backend s
    ⟨step, outcome.result⟩ :: attempts backend exclude secret token steps outcome.state

variable {step other : RotationStep} {history : List Attempt} {r : Except Error Unit} {e : Error}

theorem succeeded_append :
    Succeeded other (history ++ [⟨step, r⟩]) ↔ Succeeded other history ∨ other = step ∧ r = .ok () := by
  unfold Succeeded
  rw [List.mem_append, List.mem_singleton, Attempt.mk.injEq]
  exact or_congr_right (and_congr_right fun _ => eq_comm)

theorem succeeded_append_error : Succeeded other (history ++ [⟨step, .error e⟩]) ↔ Succeeded other history := by
  simp [succeeded_append]

/-- Whatever was attempted, the step before it has succeeded. -/
def Closed (history : List Attempt) : Prop :=
  ∀ attempt ∈ history, ∀ step ∈ attempt.step.preceding?, Succeeded step history

theorem Closed.append (closed : Closed history) (allowed : ∀ p ∈ step.preceding?, Succeeded p history) :
    Closed (history ++ [⟨step, r⟩]) := by
  intro attempt ha p hp
  refine succeeded_append.2 (.inl ?_)
  rcases List.mem_append.1 ha with ha | ha
  · exact closed attempt ha p hp
  · rw [List.mem_singleton.1 ha] at hp
    exact allowed p hp

/-! ## Where a rotation stands -/

variable {store store' : SecretStore} {users : Passwords} {exclude secret current token username password : String}
  {credential credential' : Credential} {xs : List Exchange}

/-- A version has a value, and the credential is in it. -/
def Holds (store : SecretStore) (secret id : String) (credential : Credential) : Prop :=
  ∃ text, store.value? secret id = some text ∧ Credential.ofSecret secret text = .ok credential

theorem Holds.unique {id : String} (h : Holds store secret id credential) (h' : Holds store secret id credential') :
    credential' = credential := by
  obtain ⟨text, hv, hc⟩ := h
  obtain ⟨text', hv', hc'⟩ := h'
  cases hv.symm.trans hv'
  cases hc.symm.trans hc'
  rfl

/-- The store before the token becomes current: the old version is current, the token pending. -/
structure Preparing (secret current token username password : String) (store : SecretStore) : Prop where
  ordered : store.Ordered
  different : token ≠ current
  current_iff : ∀ id, store.Carries secret .current id ↔ id = current
  pending_iff : ∀ id, store.Carries secret .pending id ↔ id = token
  known : Holds store secret current { username, password }

/-- The store and the domain when a rotation may begin: the token has no value, the user has the old password. -/
structure Ready (secret current token username password : String) (store : SecretStore) (users : Passwords) : Prop
    extends Preparing secret current token username password store where
  absent : store.value? secret token = none
  user : users (DomainApi.Path.internalUser username) = some password

/-- Where a rotation stands after some attempts. -/
inductive Standing (secret current token username password : String) (history : List Attempt) (store : SecretStore)
    (users : Passwords) : Prop
  /-- There is no new password yet. -/
  | ready (ready : Ready secret current token username password store users) (unset : ¬ Succeeded .set history)
      (unfinished : ¬ Succeeded .finish history)
  /-- There is a new password. The user has it for certain once the domain has taken it. -/
  | stored (new : String) (preparing : Preparing secret current token username password store)
      (holds : Holds store secret token ⟨username, new⟩)
      (user : users (DomainApi.Path.internalUser username) = some password ∨
        users (DomainApi.Path.internalUser username) = some new)
      (taken : Succeeded .set history → users (DomainApi.Path.internalUser username) = some new)
      (unfinished : ¬ Succeeded .finish history)
  /-- The token is current. -/
  | finished (new : String) (ordered : store.Ordered)
      (current_iff : ∀ id, store.Carries secret .current id ↔ id = token)
      (holds : Holds store secret token ⟨username, new⟩)
      (user : users (DomainApi.Path.internalUser username) = some new) (finished : Succeeded .finish history)

theorem Standing.ordered (h : Standing secret current token username password history store users) : store.Ordered := by
  cases h with
  | ready ready => exact ready.ordered
  | stored new preparing => exact preparing.ordered
  | finished new ordered => exact ordered

theorem Standing.failed (h : Standing secret current token username password history store users) :
    Standing secret current token username password (history ++ [⟨step, .error e⟩]) store users := by
  cases h with
  | ready ready unset unfinished =>
    exact .ready ready (mt succeeded_append_error.1 unset) (mt succeeded_append_error.1 unfinished)
  | stored new preparing holds user taken unfinished =>
    exact .stored new preparing holds user (fun h => taken (succeeded_append_error.1 h))
      (mt succeeded_append_error.1 unfinished)
  | finished new ordered current_iff holds user finished =>
    exact .finished new ordered current_iff holds user (succeeded_append_error.2 finished)

/-! ## What the effects do to it -/

theorem Preparing.notCurrent (h : Preparing secret current token username password store) :
    ¬ store.Carries secret .current token := fun hc => h.different ((h.current_iff token).1 hc)

/-- A value for the token leaves the labels where they are. -/
theorem Preparing.putValue (h : Preparing secret current token username password store) (value : String) :
    Preparing secret current token username password (store.putValue secret token value .pending) where
  ordered := ordered_putValue h.ordered
  different := h.different
  current_iff := fun id => by
    rw [carries_putValue, if_pos rfl]
    by_cases ht : token = id
    · rw [if_pos ht]
      exact ⟨fun he => (nomatch he), fun he => absurd (ht.trans he) h.different⟩
    · rw [if_neg ht, h.current_iff id]
      exact ⟨And.right, fun he => ⟨by decide, he⟩⟩
  pending_iff := fun id => by
    rw [carries_putValue, if_pos rfl]
    by_cases ht : token = id
    · rw [if_pos ht]
      exact ⟨fun _ => ht.symm, fun _ => rfl⟩
    · rw [if_neg ht]
      exact ⟨fun he => absurd rfl he.1, fun he => absurd he.symm ht⟩
  known := by
    obtain ⟨text, hv, hc⟩ := h.known
    refine ⟨text, ?_, hc⟩
    rw [value?_putValue, if_neg fun he => h.different he.2]
    exact hv

theorem holds_putValue : Holds (store.putValue secret token credential.toText .pending) secret token credential :=
  ⟨credential.toText, value?_putValue_self, Credential.ofSecret_toText secret credential⟩

/-- Once the token is promoted from the version that was current, it is current alone. -/
theorem Preparing.promote (h : Preparing secret current token username password store) {source : Option String}
    (carries : ∀ id ∈ source, store.Carries secret .current id)
    (alone : source = none → ∀ id, ¬ store.Carries secret .current id) (id : String) :
    (store.promote secret token source).2.Carries secret .current id ↔ id = token := by
  obtain ⟨v, hv, -⟩ := (h.pending_iff token).2 rfl
  have hc := (h.current_iff current).2 rfl
  have hs : source = some current := by
    cases source with
    | none => exact absurd hc (alone rfl current)
    | some id => rw [(h.current_iff id).1 (carries id rfl)]
  rw [carries_promote hv, if_pos rfl]
  simp only
  rw [h.current_iff id, hs]
  constructor
  · rintro (ht | ⟨rfl, hne⟩)
    · exact ht.symm
    · exact absurd rfl hne
  · exact fun ht => .inl ht.symm

theorem user_of_taken (users : Passwords) (credential : Credential) {response : DomainApi.Response}
    (success : response.isSuccess = true) :
    users.after ⟨.send (passwordRequest credential), .ok response⟩ (DomainApi.Path.internalUser credential.username) =
      some credential.password := by
  unfold Passwords.after
  simp only [if_pos success]
  refine (if_pos rfl).trans ?_
  unfold passwordRequest
  rw [password?_passwordPatch]
  rfl

/-- **A step that succeeds leads on**, if the step before it has succeeded. -/
theorem Standing.succeeded (h : Standing secret current token username password history store users)
    (closed : Closed history)
    (allowed : ∀ p ∈ step.preceding?, Succeeded p history)
    (effect : Effect exclude (eventFor secret token step) store xs store') :
    Standing secret current token username password (history ++ [⟨step, .ok ()⟩]) store'
      (xs.foldl Passwords.after users) := by
  have hstep : (eventFor secret token step).step = .ok step := step.ofName_name
  have kept : ∀ {p : RotationStep}, p ≠ step → ¬ Succeeded p history → ¬ Succeeded p (history ++ [⟨step, .ok ()⟩]) :=
    fun hne hn hs => (succeeded_append.1 hs).elim hn fun he => hne he.1
  cases h with
  | ready ready unset unfinished =>
    cases effect with
    | finished carries => exact absurd carries ready.notCurrent
    | kept step' pending value => cases ready.absent.symm.trans value
    | set step' pending value => cases ready.absent.symm.trans value
    | tested step' pending value => cases ready.absent.symm.trans value
    | @stored description found credential new step' pending absent carries value read =>
      cases hstep.symm.trans step'
      have hid := (ready.current_iff _).1 carries
      cases ready.known.unique ⟨found.text, hid ▸ value, read⟩
      exact .stored new (ready.toPreparing.putValue _) holds_putValue (.inl ready.user)
        (fun hs => absurd hs (kept (by decide) unset)) (kept (by decide) unfinished)
    | promoted step' =>
      cases hstep.symm.trans step'
      exact absurd (closed _ (allowed .test rfl) .set rfl) unset
  | stored new preparing holds user taken unfinished =>
    cases effect with
    | finished carries => exact absurd carries preparing.notCurrent
    | kept step' pending value =>
      cases hstep.symm.trans step'
      exact .stored new preparing holds user (fun hs => taken ((succeeded_append.1 hs).elim id fun he => nomatch he.1))
        (kept (by decide) unfinished)
    | @stored description found credential new step' pending absent =>
      obtain ⟨text, value, -⟩ := holds
      cases absent.symm.trans value
    | @set description found credential response step' pending value read success =>
      cases hstep.symm.trans step'
      cases holds.unique ⟨found.text, value, read⟩
      have user' := user_of_taken users ⟨username, new⟩ success
      exact .stored new preparing holds (.inr user') (fun _ => user') (kept (by decide) unfinished)
    | tested step' pending value read success =>
      cases hstep.symm.trans step'
      exact .stored new preparing holds user (fun hs => taken ((succeeded_append.1 hs).elim id fun he => nomatch he.1))
        (kept (by decide) unfinished)
    | promoted step' pending carries alone =>
      cases hstep.symm.trans step'
      obtain ⟨v, hv, -⟩ := pending.carries
      refine .finished new (ordered_promote preparing.ordered hv) (preparing.promote carries alone) ?_
        (taken (closed _ (allowed .test rfl) .set rfl)) (succeeded_append.2 (.inr ⟨rfl, rfl⟩))
      obtain ⟨text, value, read⟩ := holds
      exact ⟨text, (value?_promote hv secret token).trans value, read⟩
  | finished new ordered current_iff holds user finished =>
    have carries := (current_iff token).2 rfl
    cases effect with
    | finished => exact .finished new ordered current_iff holds user (succeeded_append.2 (.inl finished))
    | kept _ pending | stored _ pending | set _ pending | tested _ pending | promoted _ pending =>
      exact absurd carries pending.notCurrent

/-- **An attempt leads from one standing to another**, whatever comes of it. -/
theorem standing_attempt (h : Standing secret current token username password history store users)
    (closed : Closed history)
    (allowed : ∀ p ∈ step.preceding?, Succeeded p history)
    (accounted : Accounted exclude (eventFor secret token step) store xs r store') :
    Standing secret current token username password (history ++ [⟨step, r⟩]) store'
      (xs.foldl Passwords.after users) := by
  rcases accounted with ⟨rfl, effect⟩ | ⟨⟨e, rfl⟩, rfl, unaccepted⟩
  · exact h.succeeded closed allowed effect
  · rw [Passwords.foldl_after_of_not_accepted unaccepted]
    exact h.failed

/-! ## Runs -/

variable {σ : Type} {backend : Backend σ} {view : σ → SecretStore}

theorem standing_attempts (serves : Serves backend view) : ∀ (steps : List RotationStep) {history : List Attempt}
    {s : σ × Passwords}, Standing secret current token username password history (view s.1) s.2 → Closed history →
      InOrder history (attempts (withUsers backend) exclude secret token steps s) →
        Standing secret current token username password
          (history ++ attempts (withUsers backend) exclude secret token steps s)
          (view (stateAfter (withUsers backend) (handle exclude) (steps.map (eventFor secret token)) s).1)
          (stateAfter (withUsers backend) (handle exclude) (steps.map (eventFor secret token)) s).2
  | [], history, s, standing, _, _ => by
    rw [show attempts (withUsers backend) exclude secret token [] s = [] from rfl, List.append_nil]
    exact standing
  | step :: steps, history, s, standing, closed, ⟨allowed, inOrder⟩ => by
    have accounted := effect_or_unchanged standing.ordered
      (course_of_yields (yields_exchanges (withUsers backend) (handle exclude (eventFor secret token step)) s))
      (serves.withUsers.follows _ s)
    have standing' := standing_attempt standing closed allowed accounted
    rw [← users_run] at standing'
    have rest := standing_attempts serves steps standing' (closed.append allowed) inOrder
    rw [List.append_assoc] at rest
    exact rest

/-- **The store and the domain agree, however a rotation goes.** As long as no attempt to finish has succeeded the old
version is current alone, and the user has the old password or the one stored for the token. Once one has succeeded the
token is current alone, and the user has the password stored for it. -/
theorem agreement (serves : Serves backend view) (exclude : String) (steps : List RotationStep) {s : σ × Passwords}
    (ready : Ready secret current token username password (view s.1) s.2)
    (inOrder : InOrder [] (attempts (withUsers backend) exclude secret token steps s)) :
    let history := attempts (withUsers backend) exclude secret token steps s
    let last := stateAfter (withUsers backend) (handle exclude) (steps.map (eventFor secret token)) s
    let user := last.2 (DomainApi.Path.internalUser username)
    (¬ Succeeded .finish history → (∀ id, (view last.1).Carries secret .current id ↔ id = current) ∧
      (user = some password ∨ ∃ new, Holds (view last.1) secret token ⟨username, new⟩ ∧ user = some new)) ∧
    (Succeeded .finish history → (∀ id, (view last.1).Carries secret .current id ↔ id = token) ∧
      ∃ new, Holds (view last.1) secret token ⟨username, new⟩ ∧ user = some new) := by
  intro history last user
  have start : Standing secret current token username password [] (view s.1) s.2 :=
    .ready ready (by simp [Succeeded]) (by simp [Succeeded])
  have closed : Closed [] := fun attempt h => by cases h
  cases standing_attempts serves steps start closed inOrder with
  | ready ready unset unfinished => exact ⟨fun _ => ⟨ready.current_iff, .inl ready.user⟩, fun h => absurd h unfinished⟩
  | stored new preparing holds user taken unfinished =>
    refine ⟨fun _ => ⟨preparing.current_iff, ?_⟩, fun h => absurd h unfinished⟩
    exact user.imp_right fun hu => ⟨new, holds, hu⟩
  | finished new ordered current_iff holds user finished =>
    exact ⟨fun h => absurd finished h, fun _ => ⟨current_iff, new, holds, user⟩⟩

/-- A domain that refuses the new password once, and a promotion that fails once. -/
def refusing : Rehearsal.World × Passwords :=
  ({ announced none with
      replies := [{ key := "PATCH _plugins/_security/api/internalusers/u", status := some 503, uses := some 1 },
        { key := "PROMOTE", failure := some .dispatch, uses := some 1 }] },
    fun path => if path = DomainApi.Path.internalUser "u" then some "p" else none)

theorem agreement_refusing :
    let steps : List RotationStep := [.create, .set, .create, .set, .test, .finish, .test, .finish]
    let last := stateAfter (withUsers Rehearsal.backend) (handle "") (steps.map (eventFor "s" "t")) refusing
    (∀ id, last.1.store.Carries "s" .current id ↔ id = "t") ∧
      ∃ new, Holds last.1.store "s" "t" ⟨"u", new⟩ ∧ last.2 (DomainApi.Path.internalUser "u") = some new := by
  intro steps
  have tidy : refusing.1.store.Tidy := by decide +kernel
  have ready : Ready "s" "c" "t" "u" "p" refusing.1.store refusing.2 :=
    { ordered := tidy.ordered
      different := by decide
      current_iff := tidy.carries_iff ⟨_, rfl, by decide⟩
      pending_iff := tidy.carries_iff ⟨_, rfl, by decide⟩
      known := ⟨_, rfl, Credential.ofSecret_toText "s" ⟨"u", "p"⟩⟩
      absent := rfl
      user := by decide +kernel }
  have inOrder : InOrder [] (attempts (withUsers Rehearsal.backend) "" "s" "t" steps refusing) := by decide +kernel
  have finished : Succeeded .finish (attempts (withUsers Rehearsal.backend) "" "s" "t" steps refusing) := by
    decide +kernel
  exact (agreement serves_rehearsal "" steps ready inOrder).2 finished

end Rotation
end SearchDomain
