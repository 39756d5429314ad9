import SearchDomain.Proofs.Rotation.Atomicity
/-!
# Redelivery — an event that has succeeded may come again

Once an event has succeeded there is nothing left to do for it (`Done`), and a repetition finds that out by reading:
whatever its calls are answered, it asks for no change and for no password, and it succeeds if none of its calls fails
(`Done.again`). A token that is in use stays so while its secret is rotated to no other, and then a description is all
that any of its events ask for (`redelivery`).
-/
namespace SearchDomain

namespace Rotation

open SecretStore Plan

variable {store store' : SecretStore} {exclude secret token : String} {event : RotationEvent} {step : RotationStep}
  {calls : List Call} {xs : List Exchange} {r : Except Error Unit}

/-- A call that neither asks for a change of the secret store nor has a password generated. -/
def Idle (c : Call) : Prop := Quiet c ∧ ∀ exclude, c ≠ .getRandomPassword exclude

/-- A version that is current, of a secret that may be rotated. -/
structure InUse (store : SecretStore) (secret token : String) : Prop where
  enabled : store.enabled? secret = some true
  current : store.Carries secret .current token

/-- An event for which all is done, and the calls by which that is found out. -/
inductive Done (event : RotationEvent) (store : SecretStore) : List Call → Prop
  /-- The token is in use. -/
  | inUse (inUse : InUse store event.secret event.token) : Done event store [.describeSecret event.secret]
  /-- The token has a value, and the current credential can be read. -/
  | created {text id currentText : String} {credential : Credential} (step : event.step = .ok .create)
      (pending : Pending store event.secret event.token) (value : store.value? event.secret event.token = some text)
      (carries : store.Carries event.secret .current id)
      (currentValue : store.value? event.secret id = some currentText)
      (read : Credential.ofSecret event.secret currentText = .ok credential) :
      Done event store [.describeSecret event.secret, .getSecretValue event.secret (.stage .current),
        .getSecretValue event.secret (pendingVersion event.token)]
  /-- The credential in the token can be read, to be sent once more. -/
  | set {text : String} {credential : Credential} (step : event.step = .ok .set)
      (pending : Pending store event.secret event.token) (value : store.value? event.secret event.token = some text)
      (read : Credential.ofSecret event.secret text = .ok credential) :
      Done event store [.describeSecret event.secret, .getSecretValue event.secret (pendingVersion event.token),
        .send (passwordRequest credential)]
  /-- The credential in the token can be read, to be tried once more. -/
  | tested {text : String} {credential : Credential} (step : event.step = .ok .test)
      (pending : Pending store event.secret event.token) (value : store.value? event.secret event.token = some text)
      (read : Credential.ofSecret event.secret text = .ok credential) :
      Done event store [.describeSecret event.secret, .getSecretValue event.secret (pendingVersion event.token),
        .authenticate credential.username credential.password]

theorem Done.idle (done : Done event store calls) : ∀ c ∈ calls, Idle c := by
  cases done <;> simp [Idle, Quiet]

/-! ## After a success -/

theorem current_putValue {value id : String} (notCurrent : ¬ store.Carries secret .current token)
    (carries : store.Carries secret .current id) :
    (store.putValue secret token value .pending).Carries secret .current id ∧
      (store.putValue secret token value .pending).value? secret id = store.value? secret id := by
  have hne : token ≠ id := fun he => notCurrent (he ▸ carries)
  rw [carries_putValue, value?_putValue, if_pos rfl, if_neg hne, if_neg fun h => hne h.2]
  exact ⟨⟨by decide, carries⟩, rfl⟩

theorem pending_putValue {value : String} (pending : Pending store secret token) :
    Pending (store.putValue secret token value .pending) secret token where
  enabled := by
    obtain ⟨s, hs⟩ := pending.carries.secret_mem
    rw [enabled?_putValue hs]
    exact pending.enabled
  carries := by
    rw [carries_putValue, if_pos rfl, if_pos rfl]
  notCurrent := fun h => pending.notCurrent (current_of_putValue h)

/-- **What has succeeded is done.** A new password that was taken or has been tried is sent or tried again as it was. -/
theorem Effect.done (effect : Effect exclude event store xs store') :
    ∃ calls, Done event store' calls ∧
      (event.step = .ok .set ∨ event.step = .ok .test → calls = xs.map (·.call)) := by
  cases effect with
  | finished current enabled => exact ⟨_, .inUse ⟨enabled, current⟩, fun _ => rfl⟩
  | kept step pending value carries currentValue read =>
    exact ⟨_, .created step pending value carries currentValue read, fun _ => rfl⟩
  | stored step pending absent carries value read =>
    obtain ⟨carries', value'⟩ := current_putValue pending.notCurrent carries
    refine ⟨_, .created step (pending_putValue pending) value?_putValue_self carries' (value'.trans value) read, ?_⟩
    rintro (h | h) <;> cases step.symm.trans h
  | set step pending value read => exact ⟨_, .set step pending value read, fun _ => rfl⟩
  | tested step pending value read => exact ⟨_, .tested step pending value read, fun _ => rfl⟩
  | promoted step pending =>
    obtain ⟨v, hv, -⟩ := pending.carries
    refine ⟨_, .inUse ⟨?_, current_promote hv⟩, ?_⟩
    · rw [enabled?_promote hv]
      exact pending.enabled
    · rintro (h | h) <;> cases step.symm.trans h

/-! ## What is asked again -/

/-- Of a token in use only the description is asked. -/
theorem Course.inUse (course : Course exclude event xs r) (follows : Follows store xs store')
    (known : event.step = .ok step) (inUse : InUse store event.secret event.token) :
    xs.map (·.call) = [.describeSecret event.secret] ∧ ((∀ x ∈ xs, x.smooth = true) → r = .ok ()) := by
  cases course with
  | unknown step => cases known.symm.trans step
  | undescribed => exact ⟨rfl, fun smooth => absurd (smooth _ List.mem_cons_self) Exchange.not_smooth_error⟩
  | finished => exact ⟨rfl, fun _ => rfl⟩
  | refused _ hgate | taken _ hgate =>
    obtain ⟨described, -⟩ := follows_describe follows
    cases hgate.symm.trans ((gate_finished_iff (described _ rfl)).2 ⟨inUse.enabled, inUse.current⟩)

/-- What came of a repetition: it goes no further than calls that are known, and goes well if they do. -/
def Again (calls : List Call) (xs : List Exchange) (r : Except Error Unit) : Prop :=
  xs.map (·.call) <+: calls ∧ ((∀ x ∈ xs, x.smooth = true) → r = .ok () ∧ xs.map (·.call) = calls)

theorem again_failed {c : Call} {e : Error} (h : xs.map (·.call) <+: calls) (failed : ⟨c, .error e⟩ ∈ xs) :
    Again calls xs r :=
  ⟨h, fun smooth => absurd (smooth _ failed) Exchange.not_smooth_error⟩

theorem again_done (h : xs.map (·.call) = calls) (done : (∀ x ∈ xs, x.smooth = true) → r = .ok ()) :
    Again calls xs r :=
  ⟨h ▸ List.prefix_refl _, fun smooth => ⟨done smooth, h⟩⟩

theorem Again.cons {x : Exchange} (h : Again calls xs r) : Again (x.call :: calls) (x :: xs) r := by
  refine ⟨List.cons_prefix_cons.2 ⟨rfl, h.1⟩, fun smooth => ?_⟩
  obtain ⟨ok, all⟩ := h.2 fun y hy => smooth y (List.mem_cons_of_mem _ hy)
  exact ⟨ok, congrArg (x.call :: ·) all⟩

theorem Course.again (course : Course exclude event xs r) (follows : Follows store xs store')
    (known : event.step = .ok step) (pending : Pending store event.secret event.token)
    (taken : ∀ {description rest}, Yields (takeStep exclude step event.secret event.token description) rest r →
      Follows store rest store' → Again calls rest r) : Again (.describeSecret event.secret :: calls) xs r := by
  cases course with
  | unknown step => cases known.symm.trans step
  | undescribed => exact again_failed ⟨calls, rfl⟩ List.mem_cons_self
  | refused _ hgate | finished _ hgate =>
    obtain ⟨described, -⟩ := follows_describe follows
    cases hgate.symm.trans ((gate_pending_iff (described _ rfl)).2 pending)
  | taken known' _ rest =>
    cases known.symm.trans known'
    exact (taken rest (follows_describe follows).2).cons

/-- A value that is there is found, unless the search fails. -/
theorem credentialIn_of_value {selector : Selector} {id text : String} {credential : Credential}
    {answer : Except Error (Option SecretValue)}
    (sought : ∀ found, answer = .ok found → store.getValue secret selector = found)
    (there : store.getValue secret selector = some ⟨id, text⟩)
    (read : Credential.ofSecret secret text = .ok credential) :
    (∃ e, answer = .error e) ∨ credentialIn secret selector answer = .ok credential := by
  cases answer with
  | error e => exact .inl ⟨e, rfl⟩
  | ok found =>
    obtain rfl := (sought found rfl).symm.trans there
    exact .inr read

theorem getValue_pendingVersion (ordered : store.Ordered) {text : String} (pending : Pending store secret token)
    (value : store.value? secret token = some text) :
    store.getValue secret (pendingVersion token) = some ⟨token, text⟩ :=
  getValue_eq_some ordered (fun _ hw => by cases hw; rfl) pending.carries value fun _ hid _ => (hid token rfl).symm

theorem getValue_current (lone : store.LoneCurrent) {id text : String} (carries : store.Carries secret .current id)
    (value : store.value? secret id = some text) : store.getValue secret (.stage .current) = some ⟨id, text⟩ :=
  getValue_eq_some lone.ordered (fun _ hw => nomatch hw) carries value fun _ _ hc => lone.unique hc carries

theorem again_create (lone : store.LoneCurrent) (pending : Pending store secret token) {text id currentText : String}
    {credential : Credential} (value : store.value? secret token = some text)
    (carries : store.Carries secret .current id) (currentValue : store.value? secret id = some currentText)
    (read : Credential.ofSecret secret currentText = .ok credential) (course : CreateCourse exclude secret token xs r)
    (follows : Follows store xs store') :
    Again [.getSecretValue secret (.stage .current), .getSecretValue secret (pendingVersion token)] xs r := by
  have hvalue := getValue_pendingVersion lone.ordered pending value
  have hcurrent := getValue_current lone carries currentValue
  cases course with
  | unread unread =>
    rcases credentialIn_of_value (follows_get follows).1 hcurrent read with ⟨e, rfl⟩ | found
    · exact again_failed ⟨[_], rfl⟩ List.mem_cons_self
    · cases unread.symm.trans found
  | unsought => exact again_failed ⟨[], rfl⟩ (List.mem_cons_of_mem _ List.mem_cons_self)
  | kept => exact again_done rfl fun _ => rfl
  | ungenerated | put =>
    have none := (follows_get (follows_get follows).2).1 _ rfl
    cases hvalue.symm.trans none

theorem again_ask {ask : Credential → Call} (ordered : store.Ordered) (pending : Pending store secret token)
    {text : String} {credential : Credential} (value : store.value? secret token = some text)
    (read : Credential.ofSecret secret text = .ok credential) (course : AskCourse secret token ask xs r)
    (follows : Follows store xs store') :
    Again [.getSecretValue secret (pendingVersion token), ask credential] xs r := by
  cases course with
  | unread unread =>
    rcases credentialIn_of_value (follows_get follows).1 (getValue_pendingVersion ordered pending value) read with
      ⟨e, rfl⟩ | found
    · exact again_failed ⟨[_], rfl⟩ List.mem_cons_self
    · cases unread.symm.trans found
  | asked read' call settled =>
    rcases credentialIn_of_value (follows_get follows).1 (getValue_pendingVersion ordered pending value) read with
      ⟨e, rfl⟩ | found
    · cases read'
    · cases read'.symm.trans found
      refine again_done (by rw [← call]; rfl) fun smooth => settled (smooth _ ?_)
      exact List.mem_cons_of_mem _ List.mem_cons_self

/-- **A repetition of what is done** goes no further than it takes to find that out. -/
theorem Done.again (done : Done event store calls) (lone : store.LoneCurrent) (known : event.step = .ok step)
    (course : Course exclude event xs r) (follows : Follows store xs store') : Again calls xs r := by
  cases done with
  | inUse inUse =>
    obtain ⟨all, ok⟩ := course.inUse follows known inUse
    exact again_done all ok
  | created known pending value carries currentValue read =>
    exact course.again follows known pending fun taken =>
      again_create lone pending value carries currentValue read (yields_createSecret taken)
  | set known pending value read =>
    exact course.again follows known pending fun taken =>
      again_ask lone.ordered pending value read (askCourse_setSecret taken)
  | tested known pending value read =>
    exact course.again follows known pending fun taken =>
      again_ask lone.ordered pending value read (askCourse_testSecret taken)

/-! ## Runs -/

variable {σ : Type} {backend : Backend σ} {view : σ → SecretStore} {s : σ}

theorem Course.known (course : Course exclude event xs (.ok ())) : ∃ step, event.step = .ok step := by
  cases course with
  | finished step_eq => exact ⟨_, step_eq⟩
  | taken step_eq => exact ⟨_, step_eq⟩

/-- What comes of an event from the state `s` that has come to `first` before. -/
structure Repeats (backend : Backend σ) (view : σ → SecretStore) (exclude : String) (event : RotationEvent)
    (first : Outcome σ Unit) (s : σ) : Prop where
  store : view ((handle exclude event).run backend s).state = view first.state
  idle : ∀ c ∈ ((handle exclude event).run backend s).calls, Idle c
  succeeds : (∀ x ∈ (handle exclude event).exchanges backend s, x.smooth = true) →
    ((handle exclude event).run backend s).result = .ok ()
  /-- What is sent or tried is the same again, as far as it comes to that. -/
  same : event.step = .ok .set ∨ event.step = .ok .test →
    ((handle exclude event).run backend s).calls <+: first.calls ∧
      ((∀ x ∈ (handle exclude event).exchanges backend s, x.smooth = true) →
        ((handle exclude event).run backend s).calls = first.calls)

theorem Done.repeats (serves : Serves backend view) (lone : (view s).LoneCurrent) (known : event.step = .ok step)
    {first : Outcome σ Unit} (unchanged : view s = view first.state) (done : Done event (view s) calls)
    (same : event.step = .ok .set ∨ event.step = .ok .test → calls = first.calls) :
    Repeats backend view exclude event first s := by
  have follows := serves.follows (handle exclude event) s
  obtain ⟨reach, whole⟩ :=
    done.again lone known (course_of_yields (yields_exchanges backend (handle exclude event) s)) follows
  rw [← calls_exchanges] at reach whole
  have idle : ∀ c ∈ ((handle exclude event).run backend s).calls, Idle c := fun c hc => done.idle c (reach.subset hc)
  have quiet : ∀ x ∈ (handle exclude event).exchanges backend s, Quiet x.call := by
    intro x hx
    refine (idle x.call ?_).1
    rw [calls_exchanges]
    exact List.mem_map_of_mem hx
  refine ⟨(follows_quiet follows quiet).1.trans unchanged, idle, fun smooth => (whole smooth).1, fun step => ?_⟩
  rw [← same step]
  exact ⟨reach, fun smooth => (whole smooth).2⟩

/-- A version in use stays so through every event that is not for another version of its secret. -/
theorem Effect.inUse (effect : Effect exclude event store xs store')
    (same : event.secret = secret → event.token = token)
    (inUse : InUse store secret token) : InUse store' secret token := by
  refine ⟨(effect.elsewhere.enabled secret).trans inUse.enabled, ?_⟩
  by_cases hs : event.secret = secret
  · obtain rfl := hs
    obtain rfl := same rfl
    -- where the store changes, the token is pending, and so it is not in use
    cases effect with
    | stored step pending => exact absurd inUse.current pending.notCurrent
    | promoted step pending => exact absurd inUse.current pending.notCurrent
    | _ => exact inUse.current
  · obtain ⟨v, hv, hl⟩ := inUse.current
    exact ⟨v, (effect.elsewhere.version? hs token).trans hv, hl⟩

theorem inUse_stateAfter (serves : Serves backend view) (exclude : String) {between : List RotationEvent}
    (same : ∀ e ∈ between, e.secret = secret → e.token = token) (lone : (view s).LoneCurrent)
    (inUse : InUse (view s) secret token) :
    let later := stateAfter backend (handle exclude) between s
    (view later).LoneCurrent ∧ InUse (view later) secret token := by
  refine kept_stateAfter serves exclude (fun store => store.LoneCurrent ∧ InUse store secret token)
    (fun kept => kept.1.ordered) ?_ ⟨lone, inUse⟩
  rintro e he store xs store' effect ⟨lone, inUse⟩
  exact ⟨effect.loneCurrent lone, effect.inUse (same e he) inUse⟩

/-- **An event that has succeeded may come again.** However often it has come, once more it leaves the store as the
first left it and asks for no change and no password; if none of its calls fails, it succeeds, and it sends or tries
what it did at first. After a promotion the events of the token ask for nothing but the description, whatever has been
handled in between that is not for another token of the secret. -/
theorem redelivery (serves : Serves backend view) (exclude : String) (event : RotationEvent)
    (lone : (view s).LoneCurrent) (ok : ((handle exclude event).run backend s).result = .ok ()) :
    let first := (handle exclude event).run backend s
    (∀ n, Repeats backend view exclude event first
      (stateAfter backend (handle exclude) (List.replicate n event) first.state)) ∧
    (event.step = .ok .finish → ∀ (between : List RotationEvent) (later : RotationEvent) (step : RotationStep),
      (∀ e ∈ between, e.secret = event.secret → e.token = event.token) →
      later.secret = event.secret → later.token = event.token → later.step = .ok step →
      let start := stateAfter backend (handle exclude) between first.state
      ((handle exclude later).run backend start).calls = [.describeSecret event.secret] ∧
        ((∀ x ∈ (handle exclude later).exchanges backend start, x.smooth = true) →
          ((handle exclude later).run backend start).result = .ok ())) := by
  intro first
  have course := course_of_yields (yields_exchanges backend (handle exclude event) s)
  rw [ok] at course
  obtain ⟨step, known⟩ := course.known
  have effect : Effect exclude event (view s) ((handle exclude event).exchanges backend s) (view first.state) := by
    rcases accounted_run serves exclude event lone.ordered with ⟨-, effect⟩ | ⟨⟨e, error⟩, -⟩
    · exact effect
    · cases ok.symm.trans error
  have lone' := effect.loneCurrent lone
  obtain ⟨calls, done, same⟩ := effect.done
  rw [← calls_exchanges] at same
  refine ⟨fun n => ?_, fun finish between later step' others secret token known' => ?_⟩
  · -- each repetition meets the store that the first has left
    have unchanged : view (stateAfter backend (handle exclude) (List.replicate n event) first.state) =
        view first.state := by
      refine stateAfter_invariant (fun s => view s = view first.state) _ ?_ rfl
      intro again hagain s hs
      obtain rfl := List.eq_of_mem_replicate hagain
      exact (Done.repeats serves (hs ▸ lone') known hs (hs ▸ done) same).store
    exact Done.repeats serves (unchanged ▸ lone') known unchanged (unchanged ▸ done) same
  · -- of what may be done, a finish leaves only a token in use
    have inUse : InUse (view first.state) event.secret event.token := by
      cases done with
      | inUse inUse => exact inUse
      | created step => cases finish.symm.trans step
      | set step => cases finish.symm.trans step
      | tested step => cases finish.symm.trans step
    obtain ⟨-, inUse'⟩ := inUse_stateAfter serves exclude others lone' inUse
    intro start
    rw [calls_exchanges, ← secret]
    rw [← secret, ← token] at inUse'
    exact (course_of_yields (yields_exchanges backend (handle exclude later) _)).inUse
      (serves.follows _ _) known' inUse'

/-- A token becomes current where no version was, and is set and tested once more beside the events of another. -/
theorem redelivery_promoted :
    let world : Rehearsal.World := {
      store := [("r", ⟨true, [("x", ⟨none, [Stage.pending.label]⟩)]⟩), ("s", ⟨true,
        [("c", ⟨some (Credential.mk "u" "p").toText, ["blue"]⟩),
          ("t", ⟨some (Credential.mk "u" "q").toText, ["green", Stage.pending.label]⟩)]⟩)] }
    let event : RotationEvent := ⟨"s", "t", "finishSecret"⟩
    let between : List RotationEvent := [⟨"r", "x", "finishSecret"⟩, ⟨"s", "t", "testSecret"⟩]
    let first := (handle "" event).run Rehearsal.backend world
    let start := stateAfter Rehearsal.backend (handle "") between first.state
    world.store.LoneCurrent ∧ first.result = .ok () ∧
      (∀ n, Repeats Rehearsal.backend Rehearsal.World.store "" event first
        (stateAfter Rehearsal.backend (handle "") (List.replicate n event) first.state)) ∧
      ((handle "" ⟨"s", "t", "setSecret"⟩).run Rehearsal.backend start).calls = [.describeSecret "s"] := by
  intro world event between first start
  have lone : world.store.LoneCurrent := by decide +kernel
  have ok : first.result = .ok () := by decide +kernel
  obtain ⟨repeats, later⟩ := redelivery serves_rehearsal "" event lone ok
  have others : ∀ e ∈ between, e.secret = event.secret → e.token = event.token := by decide +kernel
  exact ⟨lone, ok, repeats, (later (by decide +kernel) between ⟨"s", "t", "setSecret"⟩ .set others rfl rfl rfl).1⟩

end Rotation
end SearchDomain
