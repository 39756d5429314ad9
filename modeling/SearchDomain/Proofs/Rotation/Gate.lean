import SearchDomain.Proofs.Rotation.Course
import SearchDomain.Proofs.SecretStore.Current
import SearchDomain.Proofs.SecretStore.Serving
/-!
# Gate — what an event may ask of the world, and when

An unknown step asks for nothing. Any other asks for the description of its secret first, and the description alone
decides whether the step is taken (`Ruling`). A step that is taken reads until it has all it needs; if it asks for a
change of the secret store, that is its last call (`Ending`). This is so whatever the calls are answered
(`handle_gated`).
-/
namespace SearchDomain

theorem RotationStep.ofName_name (step : RotationStep) : ofName step.name = .ok step := by cases step <;> rfl

theorem RotationEvent.step_ok_iff {event : RotationEvent} {step : RotationStep} :
    event.step = .ok step ↔ event.stepName = step.name := by
  constructor
  · intro h
    unfold RotationEvent.step RotationStep.ofName at h
    split at h
    · cases h
      assumption
    split at h
    · cases h
      assumption
    split at h
    · cases h
      assumption
    split at h
    · cases h
      assumption
    · cases h
  · intro h
    unfold RotationEvent.step
    rw [h, RotationStep.ofName_name]

theorem RotationEvent.step_error {event : RotationEvent} {e : Error} (h : event.step = .error e) :
    e = .unsupportedStep event.stepName := by
  unfold RotationEvent.step RotationStep.ofName at h
  split at h
  · cases h
  split at h
  · cases h
  split at h
  · cases h
  split at h
  · cases h
  · cases h
    rfl

namespace Rotation

open Plan SecretStore

variable {exclude secret token : String} {description : Description} {event : RotationEvent}
  {xs : List Exchange} {r : Except Error Unit}

/-! ## The description decides -/

theorem gate_eq_finished_iff :
    gate secret token description = .finished ↔
      description.rotationEnabled = true ∧ description.hasStage token .current = true := by
  unfold gate
  cases description.rotationEnabled with
  | false => simp
  | true =>
    cases hl : description.labels? token with
    | none => simp [Description.hasStage, hl]
    | some labels =>
      cases description.hasStage token .current <;> cases description.hasStage token .pending <;> simp

theorem gate_eq_pending_iff :
    gate secret token description = .pending ↔ description.rotationEnabled = true ∧
      description.hasStage token .pending = true ∧ description.hasStage token .current = false := by
  unfold gate
  cases description.rotationEnabled with
  | false => simp
  | true =>
    cases hl : description.labels? token with
    | none => simp [Description.hasStage, hl]
    | some labels =>
      cases description.hasStage token .current <;> cases description.hasStage token .pending <;> simp

/-- What a description decides about a token: the further calls of the event, and its result. Only of a version that
is pending and not current, of a secret that may be rotated, is anything but the description asked. -/
inductive Ruling (secret token : String) (description : Description) : List Exchange → Except Error Unit → Prop
  | disabled (disabled : description.rotationEnabled = false) :
      Ruling secret token description []
        (.error (.invalidRotationState ("Secret " ++ secret ++ " is not enabled for rotation")))
  | absent (enabled : description.rotationEnabled = true) (absent : description.labels? token = none) :
      Ruling secret token description [] (.error (.invalidRotationState
        ("Secret version " ++ token ++ " has no stage for rotation of secret " ++ secret)))
  | finished (enabled : description.rotationEnabled = true) (current : description.hasStage token .current = true) :
      Ruling secret token description [] (.ok ())
  | unlabelled {labels : List String} (enabled : description.rotationEnabled = true)
      (present : description.labels? token = some labels) (notCurrent : description.hasStage token .current = false)
      (notPending : description.hasStage token .pending = false) :
      Ruling secret token description [] (.error (.invalidRotationState
        ("Secret version " ++ token ++ " not set as AWSPENDING for rotation of secret " ++ secret)))
  | passed {xs : List Exchange} {r : Except Error Unit} (enabled : description.rotationEnabled = true)
      (pending : description.hasStage token .pending = true)
      (notCurrent : description.hasStage token .current = false) : Ruling secret token description xs r

theorem ruling_of_refused {reason : String} (h : gate secret token description = .refused reason) :
    Ruling secret token description [] (.error (.invalidRotationState reason)) := by
  unfold gate at h
  split at h
  · rename_i disabled
    cases h
    exact .disabled (by simpa using disabled)
  rename_i enabled
  have enabled : description.rotationEnabled = true := by simpa using enabled
  split at h
  · rename_i absent
    cases h
    exact .absent enabled (by simpa using absent)
  rename_i present
  obtain ⟨labels, present⟩ := Option.ne_none_iff_exists'.1 (by simpa using present)
  split at h
  · cases h
  rename_i notCurrent
  split at h
  · rename_i notPending
    cases h
    exact .unlabelled enabled present (by simpa using notCurrent) (by simpa using notPending)
  · cases h

/-! ## A change is asked for last -/

/-- What has come before a value is stored: the current credential was read, the token had no value, and a password
was generated, which is stored with the current username. -/
structure Storing (exclude : String) (event : RotationEvent) (before : List Exchange)
    (secret token value : String) (stage : Stage) : Prop where
  step : event.stepName = RotationStep.create.name
  secret : secret = event.secret
  token : token = event.token
  stage : stage = .pending
  quiet : ∀ x ∈ before, Quiet x.call
  read : ∃ found current password, ⟨.getSecretValue event.secret (.stage .current), .ok (some found)⟩ ∈ before ∧
    Credential.ofSecret event.secret found.text = .ok current ∧ ⟨.getRandomPassword exclude, .ok password⟩ ∈ before ∧
    value = ({ username := current.username, password } : Credential).toText
  absent : ⟨.getSecretValue event.secret (pendingVersion event.token), .ok none⟩ ∈ before

/-- What has come before a promotion: a description that has the token past the gate and names the source. -/
structure Promoting (event : RotationEvent) (before : List Exchange) (secret target : String)
    (source : Option String) (description : Description) : Prop where
  step : event.stepName = RotationStep.finish.name
  secret : secret = event.secret
  target : target = event.token
  before : before = [⟨.describeSecret event.secret, .ok description⟩]
  gate : gate event.secret event.token description = .pending
  source : source = description.current?

/-- Exchanges that only read, but for the last one maybe. -/
inductive Ending (exclude : String) (event : RotationEvent) : List Exchange → Prop
  | quiet {xs : List Exchange} (quiet : ∀ x ∈ xs, Quiet x.call) : Ending exclude event xs
  | stored (before : List Exchange) {secret token value : String} {stage : Stage} {answer : Except Error Unit}
      (storing : Storing exclude event before secret token value stage) :
      Ending exclude event (before ++ [⟨.putSecretValue secret token value stage, answer⟩])
  | promoted (before : List Exchange) {secret target : String} {source : Option String} {description : Description}
      {answer : Except Error Unit} (promoting : Promoting event before secret target source description) :
      Ending exclude event (before ++ [⟨.promote secret target source, answer⟩])

/-- **A course only reads up to its last call.** -/
theorem Course.ending (course : Course exclude event xs r) : Ending exclude event xs := by
  cases course with
  | @taken step description xs r hstep hgate rest =>
    have name := RotationEvent.step_ok_iff.1 hstep
    cases step with
    | create =>
      cases yields_createSecret rest with
      | @put answer current password r read =>
        obtain ⟨found, rfl, hread⟩ := credentialIn_ok read
        exact .stored [⟨.describeSecret event.secret, .ok description⟩, _, _, _]
          { step := name, secret := rfl, token := rfl, stage := rfl
            quiet := by simp [Quiet]
            read := ⟨found, current, password, by simp, hread, by simp, rfl⟩
            absent := by simp }
      | _ => exact .quiet (by simp [Quiet])
    | set =>
      obtain ⟨answer, ⟨e, -, rfl, rfl⟩ | ⟨credential, reply, -, rfl, rfl⟩⟩ := yields_setSecret rest <;>
        exact .quiet (by simp [Quiet])
    | test =>
      obtain ⟨answer, ⟨e, -, rfl, rfl⟩ | ⟨credential, reply, -, rfl, rfl⟩⟩ := yields_testSecret rest <;>
        exact .quiet (by simp [Quiet])
    | finish =>
      rcases yields_finishSecret rest with ⟨-, rfl, rfl⟩ | ⟨-, answer, rfl, rfl⟩
      · exact .quiet (by simp [Quiet])
      · exact .promoted [_] ⟨name, rfl, rfl, rfl, hgate, rfl⟩
  | _ => exact .quiet (by simp [Quiet])

theorem eq_last_of_quiet {x y : Exchange} {after : List Exchange} (loud : ¬ Quiet x.call) :
    ∀ {ys before : List Exchange}, (∀ z ∈ ys, Quiet z.call) → ys ++ [y] = before ++ x :: after →
      before = ys ∧ x = y ∧ after = []
  | [], [], _, h => by
    cases h
    exact ⟨rfl, rfl, rfl⟩
  | [], _ :: before, _, h => by simp at h
  | z :: ys, [], quiet, h => by
    cases h
    exact absurd (quiet x List.mem_cons_self) loud
  | z :: ys, b :: before, quiet, h => by
    obtain ⟨rfl, rest⟩ := List.cons.inj h
    obtain ⟨rfl, rfl, rfl⟩ := eq_last_of_quiet loud (fun w hw => quiet w (List.mem_cons_of_mem _ hw)) rest
    exact ⟨rfl, rfl, rfl⟩

theorem not_quiet_put {value : String} {stage : Stage} : ¬ Quiet (.putSecretValue secret token value stage) :=
  fun h => h.1 _ _ _ _ rfl

theorem not_quiet_promote {source : Option String} : ¬ Quiet (.promote secret token source) := fun h => h.2 _ _ _ rfl

theorem Ending.storing {before after : List Exchange} {value : String} {stage : Stage} {answer : Except Error Unit}
    (h : Ending exclude event (before ++ ⟨.putSecretValue secret token value stage, answer⟩ :: after)) :
    after = [] ∧ Storing exclude event before secret token value stage := by
  generalize hxs : before ++ _ :: after = xs at h
  cases h with
  | quiet quiet =>
    subst hxs
    exact absurd (quiet _ (List.mem_append_right _ List.mem_cons_self)) not_quiet_put
  | stored ys storing =>
    obtain ⟨rfl, he, rfl⟩ := eq_last_of_quiet not_quiet_put storing.quiet hxs.symm
    cases he
    exact ⟨rfl, storing⟩
  | promoted ys promoting =>
    rw [promoting.before] at hxs
    obtain ⟨-, he, -⟩ := eq_last_of_quiet not_quiet_put (by simp [Quiet]) hxs.symm
    cases he

theorem Ending.promoting {before after : List Exchange} {target : String} {source : Option String}
    {answer : Except Error Unit}
    (h : Ending exclude event (before ++ ⟨.promote secret target source, answer⟩ :: after)) :
    after = [] ∧ ∃ description, Promoting event before secret target source description := by
  generalize hxs : before ++ _ :: after = xs at h
  cases h with
  | quiet quiet =>
    subst hxs
    exact absurd (quiet _ (List.mem_append_right _ List.mem_cons_self)) not_quiet_promote
  | stored ys storing =>
    obtain ⟨-, he, -⟩ := eq_last_of_quiet not_quiet_promote storing.quiet hxs.symm
    cases he
  | @promoted ys _ _ _ description _ promoting =>
    have quiet : ∀ z ∈ ys, Quiet z.call := by
      rw [promoting.before]
      simp [Quiet]
    obtain ⟨rfl, he, rfl⟩ := eq_last_of_quiet not_quiet_promote quiet hxs.symm
    cases he
    exact ⟨rfl, description, promoting⟩

/-! ## Whoever answers -/

/-- What an event asks of the world, and when. -/
structure Gated (exclude : String) (event : RotationEvent) (xs : List Exchange) (r : Except Error Unit) : Prop where
  /-- An unknown step asks for nothing. -/
  unknown : (∀ step : RotationStep, event.stepName ≠ step.name) →
    xs = [] ∧ r = .error (.unsupportedStep event.stepName)
  /-- A known one asks for the description first, which rules over the rest. -/
  known : ∀ step : RotationStep, event.stepName = step.name →
    ∃ answer rest, xs = ⟨.describeSecret event.secret, answer⟩ :: rest ∧
      ((∃ e, answer = .error e ∧ rest = [] ∧ r = .error e) ∨
        ∃ description, answer = .ok description ∧ Ruling event.secret event.token description rest r)
  /-- A value is stored by the last call, if at all. -/
  storing : ∀ {before after : List Exchange} {secret token value : String} {stage : Stage} {answer : Except Error Unit},
    xs = before ++ ⟨.putSecretValue secret token value stage, answer⟩ :: after →
      after = [] ∧ Storing exclude event before secret token value stage
  /-- A promotion is the last call, if there is one; its source is the current version of the description, and never
  the target. -/
  promoting : ∀ {before after : List Exchange} {secret target : String} {source : Option String}
    {answer : Except Error Unit}, xs = before ++ ⟨.promote secret target source, answer⟩ :: after →
      after = [] ∧ ∃ description, Promoting event before secret target source description ∧
        (∀ id, source = some id ↔ description.hasStage id .current = true) ∧ source ≠ some target

theorem Course.gated (course : Course exclude event xs r)
    (lone : ∀ description rest, xs = ⟨.describeSecret event.secret, .ok description⟩ :: rest →
      description.LoneCurrent) :
    Gated exclude event xs r where
  unknown := fun unknown => by
    have refused : ∀ {step}, event.step ≠ .ok step := fun h => unknown _ (RotationEvent.step_ok_iff.1 h)
    cases course with
    | unknown step => exact ⟨rfl, congrArg _ (RotationEvent.step_error step)⟩
    | undescribed step | refused step | finished step | taken step => exact absurd step refused
  known := fun step known => by
    have hstep := RotationEvent.step_ok_iff.2 known
    cases course with
    | unknown step => cases hstep.symm.trans step
    | undescribed => exact ⟨_, [], rfl, .inl ⟨_, rfl, rfl, rfl⟩⟩
    | refused _ hgate => exact ⟨_, [], rfl, .inr ⟨_, rfl, ruling_of_refused hgate⟩⟩
    | finished _ hgate =>
      obtain ⟨enabled, current⟩ := gate_eq_finished_iff.1 hgate
      exact ⟨_, [], rfl, .inr ⟨_, rfl, .finished enabled current⟩⟩
    | taken _ hgate =>
      obtain ⟨enabled, pending, notCurrent⟩ := gate_eq_pending_iff.1 hgate
      exact ⟨_, _, rfl, .inr ⟨_, rfl, .passed enabled pending notCurrent⟩⟩
  storing := fun h => (h ▸ course.ending).storing
  promoting := fun {before after secret target source answer} h => by
    subst h
    obtain ⟨rfl, description, promoting⟩ := course.ending.promoting
    have described := lone description _ (by rw [promoting.before]; rfl)
    have hsource : ∀ id, source = some id ↔ description.hasStage id .current = true := fun id => by
      rw [promoting.source]
      exact described.current?_iff
    refine ⟨rfl, description, promoting, hsource, fun hs => ?_⟩
    -- a token past the gate is not current, and only what is current is a source
    have notCurrent := (gate_eq_pending_iff.1 promoting.gate).2.2
    rw [← promoting.target] at notCurrent
    cases notCurrent.symm.trans ((hsource target).1 hs)

theorem answer_of_exchanges {α σ : Type} {backend : Backend σ} {p : Plan α} {s : σ} {c : Call}
    {answer : Except Error c.Answer} {rest : List Exchange} (h : p.exchanges backend s = ⟨c, answer⟩ :: rest) :
    (backend c s).1 = answer := by
  cases p with
  | done result => cases h
  | call c' next =>
    cases h
    rfl

/-- **The gate, and what is asked past it**, whatever the calls of an event are answered, if the description that it is
given has one current version at most. -/
theorem handle_gated {σ : Type} (backend : Backend σ) (exclude : String) (event : RotationEvent) {s : σ}
    (lone : ∀ description, (backend (.describeSecret event.secret) s).1 = .ok description →
      description.LoneCurrent) :
    Gated exclude event ((handle exclude event).exchanges backend s) ((handle exclude event).run backend s).result :=
  (course_of_yields (yields_exchanges backend _ s)).gated fun description _ h =>
    lone description (answer_of_exchanges h)

theorem handle_gated_promotion :
    let world : Rehearsal.World := {
      store := [("s", ⟨true, [("c", ⟨none, ["blue", Stage.current.label]⟩),
        ("t", ⟨none, [Stage.pending.label, "green"]⟩), ("u", ⟨none, [Stage.pending.label]⟩)]⟩)]
      replies := [{ key := "PROMOTE", failure := some .dispatch }] }
    let event : RotationEvent := ⟨"s", "t", "finishSecret"⟩
    (∀ description, (Rehearsal.backend (.describeSecret "s") world).1 = .ok description → description.LoneCurrent) ∧
      Gated "" event ((handle "" event).exchanges Rehearsal.backend world)
        ((handle "" event).run Rehearsal.backend world).result := by
  intro world event
  have lone : ∀ description, (Rehearsal.backend (.describeSecret "s") world).1 = .ok description →
      description.LoneCurrent := fun description h =>
    (show world.store.LoneCurrent by decide +kernel).describe
      ((replies_describe (serves_rehearsal _ _)).2 description h)
  exact ⟨lone, handle_gated Rehearsal.backend "" event lone⟩

end Rotation
end SearchDomain
