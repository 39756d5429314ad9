import SearchDomain.Proofs.Rotation.StoreInvariant
/-!
# Atomicity — an event changes the store in one of two ways, or not at all

An event that fails leaves the store exactly as it was. One that succeeds may have given its token a first value, or
made it current in place of the version that was (`Change`). Whatever comes of an event, only its own secret is
touched, and that it may be rotated stays (`atomic`).
-/
namespace SearchDomain

namespace SecretStore

variable {store store' : SecretStore} {secret token value target : String} {source : Option String}

/-- A version without a value has got one and is pending, and nothing else; the others are pending no more. -/
structure FirstValue (store : SecretStore) (secret token value : String) (store' : SecretStore) : Prop where
  absent : store.value? secret token = none
  version : store'.version? secret token = some ⟨some value, [Stage.pending.label]⟩
  others : ∀ id, token ≠ id →
    store'.version? secret id = (store.version? secret id).map (StoredVersion.drop Stage.pending.label)

/-- A pending version has become current, and the version that was has become the previous one. -/
structure Succession (store : SecretStore) (secret target : String) (store' : SecretStore) : Prop where
  promoted : ∃ v, store.version? secret target = some v ∧ Stage.pending.label ∈ v.labels ∧
    store'.version? secret target = some ((v.drop Stage.pending.label).add Stage.current.label)
  others : ∀ id, target ≠ id → store'.version? secret id = (store.version? secret id).map fun v =>
    if Stage.current.label ∈ v.labels then (v.drop Stage.current.label).add previousLabel else v

/-- Only one secret is touched, and which ones may be rotated stays. -/
structure Elsewhere (secret : String) (store store' : SecretStore) : Prop where
  secrets : ∀ other, secret ≠ other → Table.get? other store' = Table.get? other store
  enabled : ∀ other, store'.enabled? other = store.enabled? other

theorem Elsewhere.refl (secret : String) (store : SecretStore) : Elsewhere secret store store :=
  ⟨fun _ _ => rfl, fun _ => rfl⟩

theorem Elsewhere.version? (h : Elsewhere secret store store') {other : String} (hne : secret ≠ other) (id : String) :
    store'.version? other id = store.version? other id := by
  unfold SecretStore.version?
  rw [h.secrets other hne]

theorem firstValue_putValue (absent : store.value? secret token = none) :
    FirstValue store secret token value (store.putValue secret token value .pending) where
  absent := absent
  version := by rw [version?_putValue, if_pos rfl, if_pos rfl]
  others := fun id hne => by rw [version?_putValue, if_pos rfl, if_neg hne]

theorem elsewhere_putValue {stage : Stage} {s : StoredSecret} (known : Table.get? secret store = some s) :
    Elsewhere secret store (store.putValue secret token value stage) where
  secrets := fun other hne => by
    unfold putValue
    simp only
    rw [Table.get?_set, if_neg hne]
  enabled := enabled?_putValue known

/-- A promotion from the current version, if there is one, to another makes that one its successor. -/
theorem succession_promote (carries : store.Carries secret .pending target) (different : source ≠ some target)
    (current : ∀ id, source = some id ↔ store.Carries secret .current id) :
    Succession store secret target (store.promote secret target source).2 := by
  obtain ⟨v, hv, hl⟩ := carries
  refine ⟨⟨v, hv, hl, ?_⟩, fun id hne => ?_⟩
  · rw [version?_promote hv, if_pos rfl, hv]
    unfold StoredVersion.relabel
    simp only [if_neg different, if_true, Option.map_some]
  · rw [version?_promote hv, if_pos rfl]
    cases hw : store.version? secret id with
    | none => rfl
    | some w =>
      -- the label is taken from the source, and whoever has it is the source
      have labelled : Stage.current.label ∈ w.labels ↔ source = some id := by
        rw [current id]
        exact ⟨fun h => ⟨w, hw, h⟩, fun ⟨w', hw', h⟩ => Option.some.inj (hw.symm.trans hw') ▸ h⟩
      simp only [Option.map_some, StoredVersion.relabel, if_neg hne, labelled]

theorem elsewhere_promote {version : StoredVersion} (known : store.version? secret target = some version) :
    Elsewhere secret store (store.promote secret target source).2 where
  secrets := fun other hne => by
    obtain ⟨s, hs, hv⟩ := Option.bind_eq_some_iff.1 known
    obtain ⟨versions, he, -, -⟩ := promote_known source hs hv
    rw [he, Table.get?_set, if_neg hne]
  enabled := enabled?_promote known

end SecretStore

namespace Rotation

open SecretStore Plan

variable {store store' : SecretStore} {exclude : String} {event : RotationEvent}
  {xs : List Exchange} {r : Except Error Unit}

/-- What an event that succeeds may have done to a store: nothing, or what its step is there for. -/
inductive Change (exclude : String) (event : RotationEvent) (xs : List Exchange) (store : SecretStore) :
    SecretStore → Prop
  | nothing : Change exclude event xs store store
  | created {username password : String} {store' : SecretStore} (step : event.step = .ok .create)
      (generated : ⟨.getRandomPassword exclude, .ok password⟩ ∈ xs)
      (change : FirstValue store event.secret event.token ({ username, password } : Credential).toText store') :
      Change exclude event xs store store'
  | finished {store' : SecretStore} (step : event.step = .ok .finish)
      (change : Succession store event.secret event.token store') : Change exclude event xs store store'

theorem Effect.change (effect : Effect exclude event store xs store') (lone : store.LoneCurrent) :
    Change exclude event xs store store' := by
  cases effect with
  | stored step pending absent => exact .created step (by simp) (firstValue_putValue absent)
  | promoted step pending carries alone =>
    refine .finished step (succession_promote pending.carries ?_ ?_)
    · exact fun he => pending.notCurrent (carries _ he)
    · exact fun id => ⟨carries id, source_of_current lone carries alone id⟩
  | _ => exact .nothing

/-- No effect reaches further than to the secret of its event. -/
theorem Effect.elsewhere (effect : Effect exclude event store xs store') : Elsewhere event.secret store store' := by
  cases effect with
  | stored step pending =>
    obtain ⟨s, hs⟩ := pending.carries.secret_mem
    exact elsewhere_putValue hs
  | promoted step pending =>
    obtain ⟨v, hv, -⟩ := pending.carries
    exact elsewhere_promote hv
  | _ => exact .refl _ store

variable {σ : Type} {backend : Backend σ} {view : σ → SecretStore}

/-- **An event is atomic.** If it fails, whichever call was to blame, the store is as it was. If it succeeds, the store
is as it was too, or its token has got a first value with a password that was generated for it, or its token has
become current. All other secrets stay, and so does which of them may be rotated. -/
theorem atomic (serves : Serves backend view) (exclude : String) (event : RotationEvent) {s : σ}
    (lone : (view s).LoneCurrent) :
    let outcome := (handle exclude event).run backend s
    ((∃ e, outcome.result = .error e) → view outcome.state = view s) ∧
      (outcome.result = .ok () →
        Change exclude event ((handle exclude event).exchanges backend s) (view s) (view outcome.state)) ∧
      Elsewhere event.secret (view s) (view outcome.state) := by
  intro outcome
  rcases accounted_run serves exclude event lone.ordered with ⟨ok, effect⟩ | ⟨⟨e, error⟩, unchanged, -⟩
  · refine ⟨fun ⟨e, error⟩ => ?_, fun _ => effect.change lone, effect.elsewhere⟩
    cases ok.symm.trans error
  · refine ⟨fun _ => unchanged, fun ok => ?_, ?_⟩
    · cases ok.symm.trans error
    · rw [unchanged]
      exact .refl _ _

/-- Two versions are pending, one of them labelled by hand as well, when the first gets a value. -/
theorem atomic_labelled :
    let world : Rehearsal.World := {
      store := [("r", ⟨false, []⟩), ("s", ⟨true,
        [("c", ⟨some (Credential.mk "u" "p").toText, ["blue", Stage.current.label]⟩),
          ("t", ⟨none, ["green", Stage.pending.label]⟩), ("x", ⟨some "old", [Stage.pending.label, "red"]⟩)]⟩)] }
    let event : RotationEvent := ⟨"s", "t", "createSecret"⟩
    let outcome := (handle "" event).run Rehearsal.backend world
    world.store.LoneCurrent ∧ outcome.result = .ok () ∧
      Change "" event ((handle "" event).exchanges Rehearsal.backend world) world.store outcome.state.store ∧
      Elsewhere "s" world.store outcome.state.store := by
  intro world event outcome
  have lone : world.store.LoneCurrent := by decide +kernel
  have ok : outcome.result = .ok () := by decide +kernel
  obtain ⟨-, change, elsewhere⟩ := atomic serves_rehearsal "" event (s := world) lone
  exact ⟨lone, ok, change ok, elsewhere⟩

end Rotation
end SearchDomain
