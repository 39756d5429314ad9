import SearchDomain.Proofs.InternalUsers
import SearchDomain.Proofs.Rotation.Gate
/-!
# Effect — what an event does to the secret store

Against a store that answers, an event either succeeds with one of six effects, or fails and has changed nothing, at
the store or at the domain (`effect_or_unchanged`). What holds of every run is proved from this case list.
-/
namespace SearchDomain.Rotation

open SecretStore Plan

variable {store store' : SecretStore} {secret token exclude : String} {description : Description}
  {event : RotationEvent}
  {xs : List Exchange} {r : Except Error Unit}

/-- A version for which a step may be taken: pending, not yet current, of a secret that may be rotated. -/
structure Pending (store : SecretStore) (secret token : String) : Prop where
  enabled : store.enabled? secret = some true
  carries : store.Carries secret .pending token
  notCurrent : ¬ store.Carries secret .current token

/-- Against a store that answers, the gate lets just the pending versions pass. -/
theorem gate_pending_iff (described : store.describe secret = .ok description) :
    gate secret token description = .pending ↔ Pending store secret token := by
  rw [gate_eq_pending_iff]
  constructor
  · rintro ⟨enabled, pending, notCurrent⟩
    refine ⟨by rw [(describe_ok described).1, enabled], (hasStage_iff described).1 pending, fun hc => ?_⟩
    cases notCurrent.symm.trans ((hasStage_iff described).2 hc)
  · rintro ⟨enabled, carries, notCurrent⟩
    rw [(describe_ok described).1] at enabled
    exact ⟨Option.some.inj enabled, (hasStage_iff described).2 carries,
      Bool.eq_false_iff.2 fun h => notCurrent ((hasStage_iff described).1 h)⟩

theorem gate_finished_iff (described : store.describe secret = .ok description) :
    gate secret token description = .finished ↔
      store.enabled? secret = some true ∧ store.Carries secret .current token := by
  rw [gate_eq_finished_iff, hasStage_iff described, (describe_ok described).1, Option.some.injEq]

/-- What an event has done that succeeded: its exchanges, and the store after them. -/
inductive Effect (exclude : String) (event : RotationEvent) (store : SecretStore) : List Exchange → SecretStore → Prop
  /-- Nothing, since the token is current. -/
  | finished {description : Description} (current : store.Carries event.secret .current event.token)
      (enabled : store.enabled? event.secret = some true) :
      Effect exclude event store [⟨.describeSecret event.secret, .ok description⟩] store
  /-- Nothing, since the token has a value. -/
  | kept {description : Description} {found current : SecretValue} {credential : Credential}
      (step : event.step = .ok .create) (pending : Pending store event.secret event.token)
      (value : store.value? event.secret event.token = some found.text)
      (carries : store.Carries event.secret .current current.version)
      (currentValue : store.value? event.secret current.version = some current.text)
      (read : Credential.ofSecret event.secret current.text = .ok credential) :
      Effect exclude event store
        [⟨.describeSecret event.secret, .ok description⟩,
          ⟨.getSecretValue event.secret (.stage .current), .ok (some current)⟩,
          ⟨.getSecretValue event.secret (pendingVersion event.token), .ok (some found)⟩] store
  /-- A value for the token, with the name in the current version and a password that was generated. -/
  | stored {description : Description} {found : SecretValue} {current : Credential} {password : String}
      (step : event.step = .ok .create) (pending : Pending store event.secret event.token)
      (absent : store.value? event.secret event.token = none)
      (carries : store.Carries event.secret .current found.version)
      (value : store.value? event.secret found.version = some found.text)
      (read : Credential.ofSecret event.secret found.text = .ok current) :
      Effect exclude event store
        [⟨.describeSecret event.secret, .ok description⟩,
          ⟨.getSecretValue event.secret (.stage .current), .ok (some found)⟩,
          ⟨.getSecretValue event.secret (pendingVersion event.token), .ok none⟩,
          ⟨.getRandomPassword exclude, .ok password⟩,
          ⟨.putSecretValue event.secret event.token
            ({ username := current.username, password } : Credential).toText .pending, .ok ()⟩]
        (store.putValue event.secret event.token
          ({ username := current.username, password } : Credential).toText .pending)
  /-- The user of the token's value has its password. -/
  | set {description : Description} {found : SecretValue} {credential : Credential} {response : DomainApi.Response}
      (step : event.step = .ok .set) (pending : Pending store event.secret event.token)
      (value : store.value? event.secret event.token = some found.text)
      (read : Credential.ofSecret event.secret found.text = .ok credential) (success : response.isSuccess = true) :
      Effect exclude event store
        [⟨.describeSecret event.secret, .ok description⟩,
          ⟨.getSecretValue event.secret (pendingVersion event.token), .ok (some found)⟩,
          ⟨.send (passwordRequest credential), .ok response⟩] store
  /-- The domain knows the user of the token's value by its password. -/
  | tested {description : Description} {found : SecretValue} {credential : Credential} {response : DomainApi.Response}
      (step : event.step = .ok .test) (pending : Pending store event.secret event.token)
      (value : store.value? event.secret event.token = some found.text)
      (read : Credential.ofSecret event.secret found.text = .ok credential) (success : response.isSuccess = true) :
      Effect exclude event store
        [⟨.describeSecret event.secret, .ok description⟩,
          ⟨.getSecretValue event.secret (pendingVersion event.token), .ok (some found)⟩,
          ⟨.authenticate credential.username credential.password, .ok response⟩] store
  /-- The token is current, in place of the version that was. -/
  | promoted {description : Description} {source : Option String} (step : event.step = .ok .finish)
      (pending : Pending store event.secret event.token)
      (carries : ∀ id ∈ source, store.Carries event.secret .current id)
      (alone : source = none → ∀ id, ¬ store.Carries event.secret .current id) :
      Effect exclude event store
        [⟨.describeSecret event.secret, .ok description⟩, ⟨.promote event.secret event.token source, .ok ()⟩]
        (store.promote event.secret event.token source).2

/-- Nothing has been changed, at the store or at the domain. -/
def Unchanged (store : SecretStore) (xs : List Exchange) (store' : SecretStore) : Prop :=
  store' = store ∧ ∀ x ∈ xs, ¬ Passwords.Accepted x

theorem value_of_pendingVersion (ordered : store.Ordered) {found : SecretValue}
    (h : store.getValue secret (pendingVersion token) = some found) : store.value? secret token = some found.text := by
  obtain ⟨hid, -, hv⟩ := getValue_some ordered h
  rw [hid token rfl]
  exact hv

/-- What came of an event: success with its effect, or an error that has changed nothing. -/
def Accounted (exclude : String) (event : RotationEvent) (store : SecretStore) (xs : List Exchange)
    (r : Except Error Unit) (store' : SecretStore) : Prop :=
  r = .ok () ∧ Effect exclude event store xs store' ∨ (∃ e, r = .error e) ∧ Unchanged store xs store'

/-- An error is accounted for where nothing was sent and the store has not changed. -/
theorem accounted_of_unsent {e : Error} (unsent : ∀ x ∈ xs, ∀ request, x.call ≠ .send request)
    (follows : store' = store) : Accounted exclude event store xs (.error e) store' := by
  refine .inr ⟨⟨e, rfl⟩, follows, fun x hx => ?_⟩
  rintro ⟨request, response, rfl, -⟩
  exact unsent _ hx request rfl

theorem accounted_create (ordered : store.Ordered) (step : event.step = .ok .create)
    (pending : Pending store event.secret event.token) (course : CreateCourse exclude event.secret event.token xs r)
    (follows : Follows store xs store') :
    Accounted exclude event store (⟨.describeSecret event.secret, .ok description⟩ :: xs) r store' := by
  cases course with
  | unread read =>
    obtain ⟨-, h⟩ := follows_get follows
    exact accounted_of_unsent (by simp) (follows_nil_iff.1 h)
  | unsought read =>
    obtain ⟨-, h₁⟩ := follows_get follows
    obtain ⟨-, h₂⟩ := follows_get h₁
    exact accounted_of_unsent (by simp) (follows_nil_iff.1 h₂)
  | kept read =>
    obtain ⟨sought, h₁⟩ := follows_get follows
    obtain ⟨found, h₂⟩ := follows_get h₁
    obtain rfl := follows_nil_iff.1 h₂
    obtain ⟨current, rfl, hread⟩ := credentialIn_ok read
    obtain ⟨-, hcarries, hvalue⟩ := getValue_some ordered (sought _ rfl)
    exact .inl ⟨rfl, .kept step pending (value_of_pendingVersion ordered (found _ rfl)) hcarries hvalue hread⟩
  | ungenerated read =>
    obtain ⟨-, h₁⟩ := follows_get follows
    obtain ⟨-, h₂⟩ := follows_get h₁
    have h₃ := follows_other h₂ (by simp) (by simp)
    exact accounted_of_unsent (by simp) (follows_nil_iff.1 h₃)
  | put read =>
    obtain ⟨current, h₁⟩ := follows_get follows
    obtain ⟨absent, h₂⟩ := follows_get h₁
    obtain ⟨store₁, h₃, hn⟩ := follows_cons_iff.1 (follows_other h₂ (by simp) (by simp))
    obtain rfl := follows_nil_iff.1 hn
    obtain ⟨found, rfl, hread⟩ := credentialIn_ok read
    obtain ⟨-, hcarries, hvalue⟩ := getValue_some ordered (current _ rfl)
    have habsent := getValue_none (absent _ rfl) (fun w hw => by cases hw; rfl) pending.carries
    rcases replies_put h₃ with ⟨e, rfl, hs⟩ | ⟨rfl, rfl⟩
    · exact accounted_of_unsent (by simp) hs
    · exact .inl ⟨rfl, .stored step pending habsent hcarries hvalue hread⟩

theorem value_of_follows (ordered : store.Ordered) {answer : Except Error (Option SecretValue)} {x : Exchange}
    {credential : Credential} (read : credentialIn secret (pendingVersion token) answer = .ok credential)
    (follows : Follows store [⟨.getSecretValue secret (pendingVersion token), answer⟩, x] store')
    (put : ∀ s t v g, x.call ≠ .putSecretValue s t v g) (promote : ∀ s t f, x.call ≠ .promote s t f) :
    store' = store ∧ ∃ found, answer = .ok (some found) ∧ store.value? secret token = some found.text ∧
      Credential.ofSecret secret found.text = .ok credential := by
  obtain ⟨sought, h⟩ := follows_get follows
  obtain ⟨found, rfl, hread⟩ := credentialIn_ok read
  exact ⟨follows_nil_iff.1 (follows_other h put promote), found, rfl, value_of_pendingVersion ordered (sought _ rfl),
    hread⟩

theorem accounted_set (ordered : store.Ordered) (step : event.step = .ok .set)
    (pending : Pending store event.secret event.token) (course : Yields (setSecret event.secret event.token) xs r)
    (follows : Follows store xs store') :
    Accounted exclude event store (⟨.describeSecret event.secret, .ok description⟩ :: xs) r store' := by
  obtain ⟨answer, ⟨e, -, rfl, rfl⟩ | ⟨credential, reply, hread, rfl, rfl⟩⟩ := yields_setSecret course
  · exact accounted_of_unsent (by simp) (follows_nil_iff.1 (follows_get follows).2)
  obtain ⟨rfl, found, rfl, hvalue, hcredential⟩ := value_of_follows ordered hread follows (by simp) (by simp)
  cases hs : settled ("rotation " ++ credential.username ++ " password") reply with
  | ok u =>
    obtain ⟨response, rfl, hsuccess⟩ := settled_ok hs
    exact .inl ⟨rfl, .set step pending hvalue hcredential hsuccess⟩
  | error e =>
    -- the request was sent here, so it has to be seen that it was not accepted
    refine .inr ⟨⟨e, rfl⟩, rfl, fun x hx => ?_⟩
    rintro ⟨request, response, rfl, hsuccess⟩
    simp only [List.mem_cons, Exchange.mk.injEq, reduceCtorEq, false_and, false_or, List.not_mem_nil, or_false,
      Call.send.injEq] at hx
    obtain ⟨rfl, hx⟩ := hx
    cases hx
    exact settled_error hs hsuccess

theorem accounted_test (ordered : store.Ordered) (step : event.step = .ok .test)
    (pending : Pending store event.secret event.token) (course : Yields (testSecret event.secret event.token) xs r)
    (follows : Follows store xs store') :
    Accounted exclude event store (⟨.describeSecret event.secret, .ok description⟩ :: xs) r store' := by
  obtain ⟨answer, ⟨e, -, rfl, rfl⟩ | ⟨credential, reply, hread, rfl, rfl⟩⟩ := yields_testSecret course
  · exact accounted_of_unsent (by simp) (follows_nil_iff.1 (follows_get follows).2)
  obtain ⟨rfl, found, rfl, hvalue, hcredential⟩ := value_of_follows ordered hread follows (by simp) (by simp)
  cases hs : settled ("authentication test of " ++ credential.username) reply with
  | ok u =>
    obtain ⟨response, rfl, hsuccess⟩ := settled_ok hs
    exact .inl ⟨rfl, .tested step pending hvalue hcredential hsuccess⟩
  | error e => exact accounted_of_unsent (by simp) rfl

theorem accounted_finish (ordered : store.Ordered) (described : store.describe event.secret = .ok description)
    (step : event.step = .ok .finish) (pending : Pending store event.secret event.token)
    (course : Yields (finishSecret event.secret event.token description) xs r) (follows : Follows store xs store') :
    Accounted exclude event store (⟨.describeSecret event.secret, .ok description⟩ :: xs) r store' := by
  rcases yields_finishSecret course with ⟨hc, -, -⟩ | ⟨-, answer, rfl, rfl⟩
  · exact absurd (current?_some ordered described hc) pending.notCurrent
  obtain ⟨store₁, first, hn⟩ := follows_cons_iff.1 follows
  obtain rfl := follows_nil_iff.1 hn
  rcases replies_promote first with ⟨e, rfl, hs⟩ | ⟨rfl, rfl⟩
  · exact accounted_of_unsent (by simp) hs
  · obtain ⟨v, hv, -⟩ := pending.carries
    rw [promote_ok hv]
    exact .inl ⟨rfl, .promoted step pending (fun id hid => current?_some ordered described hid)
      (fun hn id => current?_none described hn id)⟩

/-- **An event succeeds with one of the effects, or fails and has changed nothing.** -/
theorem effect_or_unchanged (ordered : store.Ordered) (course : Course exclude event xs r)
    (follows : Follows store xs store') : Accounted exclude event store xs r store' := by
  cases course with
  | unknown step => exact accounted_of_unsent (by simp) (follows_nil_iff.1 follows)
  | undescribed step => exact accounted_of_unsent (by simp) (follows_nil_iff.1 (follows_describe follows).2)
  | refused step hgate => exact accounted_of_unsent (by simp) (follows_nil_iff.1 (follows_describe follows).2)
  | finished step hgate =>
    obtain ⟨described, h⟩ := follows_describe follows
    obtain rfl := follows_nil_iff.1 h
    obtain ⟨enabled, current⟩ := (gate_finished_iff (described _ rfl)).1 hgate
    exact .inl ⟨rfl, .finished current enabled⟩
  | @taken step description xs r hstep hgate rest =>
    obtain ⟨described, h⟩ := follows_describe follows
    have pending := (gate_pending_iff (described _ rfl)).1 hgate
    cases step with
    | create => exact accounted_create ordered hstep pending (yields_createSecret rest) h
    | set => exact accounted_set ordered hstep pending rest h
    | test => exact accounted_test ordered hstep pending rest h
    | finish => exact accounted_finish ordered (described _ rfl) hstep pending rest h

end SearchDomain.Rotation
