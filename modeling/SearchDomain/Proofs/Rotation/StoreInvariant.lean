import SearchDomain.Proofs.Rotation.Effect
import SearchDomain.Proofs.SecretStore.Current
/-!
# StoreInvariant — what no sequence of events breaks

A tidy store has each stage on one version of a secret at most. Every event leaves a tidy store tidy, and keeps its
versions, their values, and a current version where there is one. The store alone would not: it overwrites values that
are put and trusts the source of a promotion. It is the gate, the search for a pending value and the source read off
the description that keep it so, and all an event does is in its `Effect`.
-/
namespace SearchDomain

namespace SecretStore

/-- Each stage is on one version of a secret at most. -/
structure Tidy (store : SecretStore) : Prop where
  ordered : store.Ordered
  unique : ∀ {secret : String} {stage : Stage} {i j : String}, store.Carries secret stage i →
    store.Carries secret stage j → i = j

theorem Tidy.carries_iff {store : SecretStore} (tidy : store.Tidy) {secret id : String} {stage : Stage}
    (h : store.Carries secret stage id) (other : String) : store.Carries secret stage other ↔ other = id := by
  constructor
  · exact fun ho => tidy.unique ho h
  · rintro rfl
    exact h

/-- Two versions that share no stage. -/
def Apart (v w : StoredVersion) : Prop :=
  ∀ stage ∈ [Stage.current, .pending], stage.label ∈ v.labels → stage.label ∉ w.labels

instance (v w : StoredVersion) : Decidable (Apart v w) :=
  inferInstanceAs (Decidable (∀ stage ∈ [Stage.current, .pending], stage.label ∈ v.labels → stage.label ∉ w.labels))

theorem tidy_iff {store : SecretStore} :
    store.Tidy ↔ store.Ordered ∧ ∀ e ∈ store, e.2.versions.Pairwise fun v w => Apart v.2 w.2 := by
  simp only [Apart, List.mem_cons, List.not_mem_nil, or_false, forall_eq_or_imp, forall_eq, List.pairwise_and_iff,
    forall_and]
  constructor
  · rintro ⟨ordered, unique⟩
    exact ⟨ordered, (unique_iff ordered).1 unique, (unique_iff ordered).1 unique⟩
  · rintro ⟨ordered, current, pending⟩
    refine ⟨ordered, fun {secret stage i j} => ?_⟩
    cases stage with
    | current => exact (unique_iff ordered).2 current
    | pending => exact (unique_iff ordered).2 pending

instance (store : SecretStore) : Decidable store.Tidy := decidable_of_iff _ tidy_iff.symm

theorem Tidy.loneCurrent {store : SecretStore} (tidy : store.Tidy) : store.LoneCurrent := ⟨tidy.ordered, tidy.unique⟩

/-- What the second store has kept of the first. -/
structure Keeps (store store' : SecretStore) : Prop where
  /-- No version has disappeared. -/
  versions : ∀ {secret id : String}, (∃ v, store.version? secret id = some v) → ∃ v, store'.version? secret id = some v
  /-- No value has been changed or removed. -/
  values : ∀ {secret id value : String}, store.value? secret id = some value → store'.value? secret id = some value
  /-- No secret has disappeared, and those that may be rotated are the same. -/
  enabled : ∀ {secret : String} {enabled : Bool}, store.enabled? secret = some enabled →
    store'.enabled? secret = some enabled
  /-- A secret with a current version still has one. -/
  current : ∀ {secret : String}, (∃ id, store.Carries secret .current id) → ∃ id, store'.Carries secret .current id

theorem Keeps.refl (store : SecretStore) : Keeps store store := ⟨id, id, id, id⟩

theorem Keeps.trans {a b c : SecretStore} (h₁ : Keeps a b) (h₂ : Keeps b c) : Keeps a c :=
  ⟨h₂.versions ∘ h₁.versions, h₂.values ∘ h₁.values, h₂.enabled ∘ h₁.enabled, h₂.current ∘ h₁.current⟩

variable {store : SecretStore} {secret token value target : String} {stage : Stage} {source : Option String}

/-! ## Storing a value -/

theorem tidy_putValue (tidy : store.Tidy) : (store.putValue secret token value stage).Tidy := by
  refine ⟨ordered_putValue tidy.ordered, fun {other s i j} hi hj => ?_⟩
  rw [carries_putValue] at hi hj
  by_cases ho : secret = other
  · rw [if_pos ho] at hi hj
    by_cases ti : token = i <;> by_cases tj : token = j
    · exact ti.symm.trans tj
    · rw [if_pos ti] at hi
      rw [if_neg tj] at hj
      exact absurd hi hj.1
    · rw [if_neg ti] at hi
      rw [if_pos tj] at hj
      exact absurd hj hi.1
    · rw [if_neg ti] at hi
      rw [if_neg tj] at hj
      exact tidy.unique hi.2 hj.2
  · rw [if_neg ho] at hi hj
    exact tidy.unique hi hj

/-- A pending version that has no value and is not current can be given one without a loss. -/
theorem keeps_putValue (pending : store.Carries secret .pending token) (absent : store.value? secret token = none)
    (notCurrent : ¬ store.Carries secret .current token) :
    Keeps store (store.putValue secret token value .pending) where
  versions := fun {other id} ⟨v, hv⟩ => by
    rw [version?_putValue]
    by_cases ho : secret = other
    · subst ho
      by_cases ht : token = id
      · exact ⟨_, by rw [if_pos rfl, if_pos ht]⟩
      · exact ⟨_, by rw [if_pos rfl, if_neg ht, hv]; rfl⟩
    · exact ⟨v, by rw [if_neg ho, hv]⟩
  values := fun {other id old} hv => by
    rw [value?_putValue, if_neg]
    · exact hv
    · rintro ⟨rfl, rfl⟩
      cases absent.symm.trans hv
  enabled := fun he => by
    obtain ⟨s, hs⟩ := pending.secret_mem
    rw [enabled?_putValue hs]
    exact he
  current := fun {other} ⟨id, hid⟩ => by
    refine ⟨id, carries_putValue.2 ?_⟩
    by_cases ho : secret = other
    · subst ho
      have ht : token ≠ id := fun he => notCurrent (he ▸ hid)
      rw [if_pos rfl, if_neg ht]
      exact ⟨by decide, hid⟩
    · rw [if_neg ho]
      exact hid

/-! ## Promoting a version -/

variable {version : StoredVersion}

/-- A promotion must take the current label from whoever has it. -/
theorem tidy_promote (tidy : store.Tidy) (known : store.version? secret target = some version)
    (taken : ∀ id, store.Carries secret .current id → source = some id) :
    (store.promote secret target source).2.Tidy := by
  have lone := loneCurrent_promote tidy.loneCurrent known taken
  refine ⟨lone.ordered, fun {other s i j} hi hj => ?_⟩
  cases s with
  | current => exact lone.unique hi hj
  | pending =>
    rw [carries_promote known] at hi hj
    by_cases ho : secret = other
    · rw [if_pos ho] at hi hj
      exact tidy.unique hi.1 hj.1
    · rw [if_neg ho] at hi hj
      exact tidy.unique hi hj

theorem keeps_promote (known : store.version? secret target = some version) :
    Keeps store (store.promote secret target source).2 where
  versions := fun {other id} ⟨v, hv⟩ => by
    rw [version?_promote known]
    by_cases ho : secret = other
    · subst ho
      exact ⟨_, by rw [if_pos rfl, hv]; rfl⟩
    · exact ⟨v, by rw [if_neg ho, hv]⟩
  values := fun hv => by
    rw [value?_promote known]
    exact hv
  enabled := fun he => by
    rw [enabled?_promote known]
    exact he
  current := fun {other} ⟨id, hid⟩ => by
    by_cases ho : secret = other
    · subst ho
      exact ⟨target, current_promote known⟩
    · exact ⟨id, (carries_promote known).2 (by rw [if_neg ho]; exact hid)⟩

end SecretStore

namespace Rotation

open SecretStore Plan

variable {store store' : SecretStore} {exclude : String} {event : RotationEvent}
variable {xs : List Exchange} {r : Except Error Unit}

/-! ## Events -/

/-- The source that a rotation finds for a promotion is the current version, if there is one. -/
theorem source_of_current (lone : store.LoneCurrent) {secret : String} {source : Option String}
    (carries : ∀ id ∈ source, store.Carries secret .current id)
    (alone : source = none → ∀ id, ¬ store.Carries secret .current id) :
    ∀ id, store.Carries secret .current id → source = some id := by
  intro id hid
  cases source with
  | none => exact absurd hid (alone rfl id)
  | some id' => rw [lone.unique (carries id' rfl) hid]

/-- **An effect leaves a tidy store tidy, and keeps what is in it.** -/
theorem Effect.tidy_keeps (h : Effect exclude event store xs store') (tidy : store.Tidy) :
    store'.Tidy ∧ Keeps store store' := by
  cases h with
  | stored step pending absent carries value read =>
    exact ⟨tidy_putValue tidy, keeps_putValue pending.carries absent pending.notCurrent⟩
  | promoted step pending carries alone =>
    obtain ⟨v, hv, -⟩ := pending.carries
    exact ⟨tidy_promote tidy hv (source_of_current tidy.loneCurrent carries alone), keeps_promote hv⟩
  | _ => exact ⟨tidy, .refl store⟩

theorem Effect.ordered (h : Effect exclude event store xs store') (ordered : store.Ordered) : store'.Ordered := by
  cases h with
  | stored => exact ordered_putValue ordered
  | promoted step pending =>
    obtain ⟨v, hv, -⟩ := pending.carries
    exact ordered_promote ordered hv
  | _ => exact ordered

/-- **An effect leaves one current version at most.** -/
theorem Effect.loneCurrent (h : Effect exclude event store xs store') (lone : store.LoneCurrent) :
    store'.LoneCurrent := by
  cases h with
  | stored => exact loneCurrent_putValue lone
  | promoted step pending carries alone =>
    obtain ⟨v, hv, -⟩ := pending.carries
    exact loneCurrent_promote lone hv (source_of_current lone carries alone)
  | _ => exact lone

theorem Accounted.tidy_keeps (h : Accounted exclude event store xs r store') (tidy : store.Tidy) :
    store'.Tidy ∧ Keeps store store' := by
  rcases h with ⟨-, effect⟩ | ⟨-, rfl, -⟩
  · exact effect.tidy_keeps tidy
  · exact ⟨tidy, .refl _⟩

theorem Accounted.loneCurrent (h : Accounted exclude event store xs r store') (lone : store.LoneCurrent) :
    store'.LoneCurrent := by
  rcases h with ⟨-, effect⟩ | ⟨-, rfl, -⟩
  · exact effect.loneCurrent lone
  · exact lone

/-! ## Runs -/

variable {σ : Type} {backend : Backend σ} {view : σ → SecretStore}

theorem accounted_run (serves : Serves backend view) (exclude : String) (event : RotationEvent) {s : σ}
    (ordered : (view s).Ordered) :
    Accounted exclude event (view s) ((handle exclude event).exchanges backend s)
      ((handle exclude event).run backend s).result (view ((handle exclude event).run backend s).state) :=
  effect_or_unchanged ordered (course_of_yields (yields_exchanges backend _ s)) (serves.follows _ s)

/-- **What every effect keeps, every sequence of events keeps.** -/
theorem kept_stateAfter (serves : Serves backend view) (exclude : String) (Kept : SecretStore → Prop)
    {events : List RotationEvent} {s : σ} (ordered : ∀ {store}, Kept store → store.Ordered)
    (step : ∀ event ∈ events, ∀ {store xs store'}, Effect exclude event store xs store' → Kept store → Kept store')
    (initial : Kept (view s)) : Kept (view (stateAfter backend (handle exclude) events s)) := by
  refine stateAfter_invariant (fun s => Kept (view s)) events (fun event he s kept => ?_) initial
  rcases accounted_run serves exclude event (ordered kept) with ⟨-, effect⟩ | ⟨-, unchanged, -⟩
  · exact step event he effect kept
  · rw [unchanged]
    exact kept

theorem tidy_keeps_stateAfter (serves : Serves backend view) (exclude : String) (events : List RotationEvent) {s : σ}
    (tidy : (view s).Tidy) :
    (view (stateAfter backend (handle exclude) events s)).Tidy ∧
      Keeps (view s) (view (stateAfter backend (handle exclude) events s)) := by
  refine kept_stateAfter serves exclude (fun store => store.Tidy ∧ Keeps (view s) store) (fun kept => kept.1.ordered) ?_
    ⟨tidy, .refl _⟩
  rintro event - store xs store' effect ⟨tidy, keeps⟩
  obtain ⟨tidy', keeps'⟩ := effect.tidy_keeps tidy
  exact ⟨tidy', keeps.trans keeps'⟩

/-- **Nothing is lost or doubled, in any sequence of events.** Whatever has been there at some point, before the last
event or earlier, is there at the end. -/
theorem store_invariant (serves : Serves backend view) (exclude : String) (before after : List RotationEvent) {s : σ}
    (tidy : (view s).Tidy) :
    (view (stateAfter backend (handle exclude) (before ++ after) s)).Tidy ∧
      Keeps (view (stateAfter backend (handle exclude) before s))
        (view (stateAfter backend (handle exclude) (before ++ after) s)) := by
  rw [stateAfter_append]
  exact tidy_keeps_stateAfter serves exclude after (tidy_keeps_stateAfter serves exclude before tidy).1

/-- A secret whose pending version has been announced, with or without a value. -/
def announced (value : Option String) : Rehearsal.World where
  store := [("s", ⟨true, [("c", ⟨some (Credential.mk "u" "p").toText, [Stage.current.label]⟩),
    ("t", ⟨value, [Stage.pending.label]⟩)]⟩)]

/-- A promotion that fails at first, and a token that is taken up again. -/
theorem store_invariant_announced :
    let world := { announced none with replies := [{ key := "PROMOTE", failure := some .dispatch, uses := some 1 }] }
    let before : List RotationEvent := [⟨"s", "t", "createSecret"⟩, ⟨"s", "t", "finishSecret"⟩]
    let after : List RotationEvent := [⟨"s", "t", "finishSecret"⟩, ⟨"s", "c", "createSecret"⟩]
    world.store.Tidy ∧ (stateAfter Rehearsal.backend (handle "") (before ++ after) world).store.Tidy ∧
      Keeps (stateAfter Rehearsal.backend (handle "") before world).store
        (stateAfter Rehearsal.backend (handle "") (before ++ after) world).store :=
  ⟨by decide +kernel, store_invariant serves_rehearsal "" _ _ (by decide +kernel)⟩

end Rotation
end SearchDomain
