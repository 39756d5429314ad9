import SearchDomain.Proofs.Credential
import SearchDomain.Proofs.Rotation.StoreInvariant
/-!
# Username — a secret stays with its user

A new value takes its name from a value that is there and its password from the generator. So where all values of a
secret are credentials of one user they remain so, whatever events there are, and it is for that user that passwords
are set and tried (`username_kept`). Nothing is asked of the labels: several versions may be current.
-/
namespace SearchDomain

namespace SecretStore

variable {store : SecretStore} {secret username : String}

/-- All values of a secret are credentials of one user. -/
def OneUser (store : SecretStore) (secret username : String) : Prop :=
  ∀ id text, store.value? secret id = some text →
    ∃ password, Credential.ofSecret secret text = .ok ⟨username, password⟩

theorem oneUser_iff : store.OneUser secret username ↔
    ∀ s ∈ Table.get? secret store, ∀ e ∈ s.versions, ∀ text ∈ store.value? secret e.1,
      (Credential.ofSecret secret text).map (·.username) = .ok username := by
  constructor
  · intro one s _ e _ text htext
    obtain ⟨password, read⟩ := one e.1 text htext
    rw [read]
    rfl
  · intro all id text value
    obtain ⟨v, hv, -⟩ := Option.bind_eq_some_iff.1 value
    obtain ⟨s, hs, hid⟩ := Option.bind_eq_some_iff.1 hv
    have named := all s hs (id, v) (Table.mem_of_get? hid) text value
    cases read : Credential.ofSecret secret text with
    | error e =>
      rw [read] at named
      cases named
    | ok credential =>
      rw [read] at named
      cases named
      exact ⟨credential.password, rfl⟩

instance (store : SecretStore) (secret username : String) : Decidable (store.OneUser secret username) :=
  decidable_of_iff _ oneUser_iff.symm

end SecretStore

namespace Rotation

open SecretStore Plan

variable {store store' : SecretStore} {exclude secret token username : String} {event : RotationEvent}
  {xs : List Exchange} {r : Except Error Unit}

/-! ## What is stored -/

/-- The passwords that were generated. -/
def generated (xs : List Exchange) : List String := xs.filterMap fun
  | ⟨.getRandomPassword _, .ok password⟩ => some password
  | _ => none

/-- **A new value** is a credential of the same user, with the one password that was generated. -/
theorem Effect.value (effect : Effect exclude event store xs store') (one : store.OneUser secret username)
    {id text : String} (value : store'.value? secret id = some text) :
    store.value? secret id = some text ∨
      ∃ password, generated xs = [password] ∧ Credential.ofSecret secret text = .ok ⟨username, password⟩ := by
  cases effect with
  | @stored description found current password step pending absent carries currentValue read =>
    rw [value?_putValue] at value
    split at value
    · rename_i h
      obtain ⟨rfl, rfl⟩ := h
      cases value
      -- the name is copied from the current value, which is one of those that are there
      obtain ⟨_, named⟩ := one _ _ currentValue
      cases read.symm.trans named
      exact .inr ⟨password, rfl, Credential.ofSecret_toText _ _⟩
    · exact .inl value
  | promoted step pending =>
    obtain ⟨v, hv, -⟩ := pending.carries
    rw [value?_promote hv] at value
    exact .inl value
  | _ => exact .inl value

theorem Effect.oneUser (effect : Effect exclude event store xs store') (one : store.OneUser secret username) :
    store'.OneUser secret username := by
  intro id text value
  rcases effect.value one value with old | ⟨password, -, new⟩
  · exact one id text old
  · exact ⟨password, new⟩

/-! ## What is sent and tried -/

/-- Of the domain a call asks at most something for this user: to set a password, or whether one is right. -/
def ForUser (username : String) : Call → Prop
  | .send request => ∃ password, request = passwordRequest ⟨username, password⟩
  | .authenticate name _ => name = username
  | _ => True

theorem AskCourse.forUser {ask : Credential → Call} (course : AskCourse secret token ask xs r) (ordered : store.Ordered)
    (follows : Follows store xs store') (one : store.OneUser secret username)
    (asks : ∀ password, ForUser username (ask ⟨username, password⟩)) : ∀ x ∈ xs, ForUser username x.call := by
  cases course with
  | unread => exact List.forall_mem_cons.2 ⟨trivial, fun x hx => nomatch hx⟩
  | asked read call =>
    obtain ⟨found, rfl, hread⟩ := credentialIn_ok read
    obtain ⟨password, named⟩ := one _ _ (value_of_pendingVersion ordered ((follows_get follows).1 _ rfl))
    cases hread.symm.trans named
    refine List.forall_mem_cons.2 ⟨trivial, List.forall_mem_cons.2 ⟨?_, fun x hx => nomatch hx⟩⟩
    rw [call]
    exact asks password

theorem CreateCourse.forUser (course : CreateCourse exclude secret token xs r) : ∀ x ∈ xs, ForUser username x.call := by
  cases course <;> simp [ForUser]

/-- **Whatever the answers are**, nothing is asked of the domain but for the user of the secret. -/
theorem Course.forUser (course : Course exclude event xs r) (ordered : store.Ordered)
    (follows : Follows store xs store')
    (one : store.OneUser event.secret username) : ∀ x ∈ xs, ForUser username x.call := by
  cases course with
  | unknown => exact fun x hx => nomatch hx
  | @taken step description xs r _ _ rest =>
    obtain ⟨-, follows⟩ := follows_describe follows
    refine List.forall_mem_cons.2 ⟨trivial, ?_⟩
    cases step with
    | create => exact (yields_createSecret rest).forUser
    | set => exact (askCourse_setSecret rest).forUser ordered follows one fun password => ⟨password, rfl⟩
    | test => exact (askCourse_testSecret rest).forUser ordered follows one fun _ => rfl
    | finish =>
      rcases yields_finishSecret rest with ⟨-, rfl, -⟩ | ⟨-, answer, rfl, -⟩
      · exact fun x hx => nomatch hx
      · exact List.forall_mem_cons.2 ⟨trivial, fun x hx => nomatch hx⟩
  | _ => exact List.forall_mem_cons.2 ⟨trivial, fun x hx => nomatch hx⟩

/-! ## Runs -/

variable {σ : Type} {backend : Backend σ} {view : σ → SecretStore}

theorem oneUser_stateAfter (serves : Serves backend view) (exclude : String) (events : List RotationEvent) {s : σ}
    (ordered : (view s).Ordered) (one : (view s).OneUser secret username) :
    (view (stateAfter backend (handle exclude) events s)).Ordered ∧
      (view (stateAfter backend (handle exclude) events s)).OneUser secret username := by
  refine kept_stateAfter serves exclude (fun store => store.Ordered ∧ store.OneUser secret username) And.left ?_
    ⟨ordered, one⟩
  rintro event - store xs store' effect ⟨ordered, one⟩
  exact ⟨effect.ordered ordered, effect.oneUser one⟩

/-- **A secret stays with its user.** In every state that is reached all its values are credentials of that user; a
value that is new after the next event has the one password that was generated in it; and if the event is for this
secret, it asks the domain for that user only, whether it succeeds or not. -/
theorem username_kept (serves : Serves backend view) (exclude secret username : String) (events : List RotationEvent)
    (event : RotationEvent) {s : σ} (ordered : (view s).Ordered) (one : (view s).OneUser secret username) :
    let before := stateAfter backend (handle exclude) events s
    let outcome := (handle exclude event).run backend before
    (view before).OneUser secret username ∧
      (∀ id text, (view outcome.state).value? secret id = some text → (view before).value? secret id ≠ some text →
        ∃ password, generated ((handle exclude event).exchanges backend before) = [password] ∧
          Credential.ofSecret secret text = .ok ⟨username, password⟩) ∧
      (event.secret = secret → ∀ c ∈ outcome.calls, ForUser username c) := by
  intro before outcome
  obtain ⟨ordered', one'⟩ := oneUser_stateAfter serves exclude events ordered one
  refine ⟨one', fun id text value new => ?_, ?_⟩
  · rcases accounted_run serves exclude event ordered' with ⟨-, effect⟩ | ⟨-, unchanged, -⟩
    · exact (effect.value one' value).resolve_left new
    · rw [unchanged] at value
      exact absurd value new
  · rintro rfl c hc
    rw [calls_exchanges] at hc
    obtain ⟨x, hx, rfl⟩ := List.mem_map.1 hc
    exact (course_of_yields (yields_exchanges backend _ before)).forUser ordered' (serves.follows _ before) one' x hx

/-- A version that has just been made current hands its name on, beside a password of odd characters. -/
theorem username_kept_twice :
    let world : Rehearsal.World := {
      passwords := ["\"\n\\é"]
      store := [("s", ⟨true, [("c", ⟨some (Credential.mk "u" "p").toText, [Stage.current.label]⟩),
        ("t", ⟨some (Credential.mk "u" "q").toText, [Stage.pending.label]⟩), ("x", ⟨none, [Stage.pending.label]⟩)]⟩)] }
    let event : RotationEvent := ⟨"s", "x", "createSecret"⟩
    let before := stateAfter Rehearsal.backend (handle "") [⟨"s", "t", "finishSecret"⟩] world
    let outcome := (handle "" event).run Rehearsal.backend before
    world.store.Ordered ∧ world.store.OneUser "s" "u" ∧ before.store.OneUser "s" "u" ∧
      (∀ id text, outcome.state.store.value? "s" id = some text → before.store.value? "s" id ≠ some text →
        ∃ password, generated ((handle "" event).exchanges Rehearsal.backend before) = [password] ∧
          Credential.ofSecret "s" text = .ok ⟨"u", password⟩) ∧
      ∀ c ∈ outcome.calls, ForUser "u" c := by
  -- the states of the run stay unnamed: an abbreviation for one would be unfolded and computed below
  intro world event
  have ordered : world.store.Ordered := by decide +kernel
  have one : world.store.OneUser "s" "u" := by decide +kernel
  obtain ⟨one', new, calls⟩ := username_kept serves_rehearsal "" "s" "u" [⟨"s", "t", "finishSecret"⟩] event ordered one
  exact ⟨ordered, one, one', new, calls rfl⟩

end Rotation
end SearchDomain
