import Mathlib.Data.List.Pairwise
import SearchDomain.Proofs.SecretStore.View
/-!
# Current — stores with at most one current version of a secret

That a stage is on one version at most can be seen from the lists of a store (`unique_iff`), so it is decided for a
store that is given. Here it is asked of the current stage alone (`LoneCurrent`): any number of versions may be
pending, and a secret may have no current version at all.
-/
namespace SearchDomain.SecretStore

variable {store : SecretStore} {secret token value target : String} {stage : Stage} {source : Option String}

theorem unique_iff (ordered : store.Ordered) :
    (∀ {secret i j : String}, store.Carries secret stage i → store.Carries secret stage j → i = j) ↔
      ∀ e ∈ store, e.2.versions.Pairwise fun v w => stage.label ∈ v.2.labels → stage.label ∉ w.2.labels := by
  constructor
  · intro unique e he
    have hs := (Table.get?_eq_some_iff ordered.secrets).2 he
    have hv := ordered.versions hs
    refine List.Pairwise.imp_of_mem (fun {v w} hv' hw' hlt hl hl' => ?_) hv
    have hi : store.Carries e.1 stage v.1 :=
      ⟨v.2, (version?_of_get? hs v.1).trans ((Table.get?_eq_some_iff hv).2 hv'), hl⟩
    have hj : store.Carries e.1 stage w.1 :=
      ⟨w.2, (version?_of_get? hs w.1).trans ((Table.get?_eq_some_iff hv).2 hw'), hl'⟩
    rw [unique hi hj] at hlt
    exact String.lt_irrefl _ hlt
  · intro apart secret i j
    rintro ⟨v, hv, hl⟩ ⟨w, hw, hl'⟩
    obtain ⟨s, hs, hi⟩ := Option.bind_eq_some_iff.1 hv
    rw [version?_of_get? hs] at hw
    refine Classical.byContradiction fun hne => ?_
    have : Std.Symm fun e f : String × StoredVersion => stage.label ∈ e.2.labels → stage.label ∉ f.2.labels :=
      ⟨fun e f h he hf => h hf he⟩
    exact (apart _ (Table.mem_of_get? hs)).forall (Table.mem_of_get? hi) (Table.mem_of_get? hw)
      (fun he => hne (congrArg Prod.fst he)) hl hl'

/-- At most one version of a secret is current. -/
structure LoneCurrent (store : SecretStore) : Prop where
  ordered : store.Ordered
  unique : ∀ {secret i j : String}, store.Carries secret .current i → store.Carries secret .current j → i = j

theorem loneCurrent_iff {store : SecretStore} :
    store.LoneCurrent ↔ store.Ordered ∧ ∀ e ∈ store, e.2.versions.Pairwise fun v w =>
      Stage.current.label ∈ v.2.labels → Stage.current.label ∉ w.2.labels :=
  ⟨fun lone => ⟨lone.ordered, (unique_iff lone.ordered).1 lone.unique⟩,
    fun ⟨ordered, apart⟩ => ⟨ordered, (unique_iff ordered).2 apart⟩⟩

instance (store : SecretStore) : Decidable store.LoneCurrent := decidable_of_iff _ loneCurrent_iff.symm

theorem LoneCurrent.carries_iff (lone : store.LoneCurrent) {id : String} (h : store.Carries secret .current id)
    (other : String) : store.Carries secret .current other ↔ other = id := by
  constructor
  · exact fun ho => lone.unique ho h
  · rintro rfl
    exact h

theorem LoneCurrent.describe (lone : store.LoneCurrent) {d : Description} (hd : store.describe secret = .ok d) :
    d.LoneCurrent :=
  ⟨ordered_describe lone.ordered hd, fun hi hj => lone.unique ((hasStage_iff hd).1 hi) ((hasStage_iff hd).1 hj)⟩

/-- A value that is stored as pending makes no version current. -/
theorem current_of_putValue {other id : String}
    (h : (store.putValue secret token value .pending).Carries other .current id) :
    store.Carries other .current id := by
  rw [carries_putValue] at h
  split at h
  · rename_i hs
    subst hs
    split at h
    · cases h
    · exact h.2
  · exact h

theorem loneCurrent_putValue (lone : store.LoneCurrent) :
    (store.putValue secret token value .pending).LoneCurrent :=
  ⟨ordered_putValue lone.ordered, fun hi hj => lone.unique (current_of_putValue hi) (current_of_putValue hj)⟩

/-- A promotion must take the current label from whoever has it. -/
theorem loneCurrent_promote (lone : store.LoneCurrent) {version : StoredVersion}
    (known : store.version? secret target = some version)
    (taken : ∀ id, store.Carries secret .current id → source = some id) :
    (store.promote secret target source).2.LoneCurrent := by
  refine ⟨ordered_promote lone.ordered known, fun {other i j} hi hj => ?_⟩
  rw [carries_promote known] at hi hj
  by_cases ho : secret = other
  · rw [if_pos ho] at hi hj
    have only : ∀ id, target = id ∨ store.Carries secret .current id ∧ source ≠ some id → target = id :=
      fun id h => h.elim (fun ht => ht) fun hc => absurd (taken id hc.1) hc.2
    exact (only i hi).symm.trans (only j hj)
  · rw [if_neg ho] at hi hj
    exact lone.unique hi hj

end SearchDomain.SecretStore
