import SearchDomain.Proofs.OrderedTable
import SearchDomain.SecretStore
/-!
# View — a secret store as versions, values and labels

What can be asked of a store is which versions there are (`version?`), what they hold (`value?`), who carries the label
of a stage (`Carries`) and which secrets may be rotated (`enabled?`). Each operation is told once in these terms; what
follows elsewhere does not look inside a store again.
-/
namespace SearchDomain

theorem Stage.label_injective {a b : Stage} (h : a.label = b.label) : a = b := by
  cases a <;> cases b <;> first | rfl | exact absurd h (by decide)

theorem Stage.label_ne_previous (s : Stage) : s.label ≠ previousLabel := by cases s <;> decide

namespace StoredVersion

theorem mem_labels_drop {label other : String} {v : StoredVersion} :
    other ∈ (v.drop label).labels ↔ other ∈ v.labels ∧ other ≠ label := by simp [drop]

theorem mem_labels_add {label other : String} {v : StoredVersion} :
    other ∈ (v.add label).labels ↔ other ∈ v.labels ∨ other = label := by simp [add]

/-- Whether a promotion from `source` to `target` finds the version with this id, and what it makes of it. -/
def relabel (target : String) (source : Option String) (id : String) (v : StoredVersion) : StoredVersion :=
  let demoted := if source = some id then (v.drop Stage.current.label).add previousLabel else v
  if target = id then (demoted.drop Stage.pending.label).add Stage.current.label else demoted

theorem value_relabel (target : String) (source : Option String) (id : String) (v : StoredVersion) :
    (v.relabel target source id).value = v.value := by
  unfold relabel
  by_cases hs : source = some id <;> by_cases ht : target = id <;> simp [hs, ht, drop, add]

theorem current_mem_relabel {target : String} {source : Option String} {id : String} {v : StoredVersion} :
    Stage.current.label ∈ (v.relabel target source id).labels ↔
      target = id ∨ Stage.current.label ∈ v.labels ∧ source ≠ some id := by
  have hp := Stage.label_ne_previous .current
  unfold relabel
  by_cases hs : source = some id <;> by_cases ht : target = id <;> simp [hs, ht, mem_labels_add, mem_labels_drop, hp]

theorem pending_mem_relabel {target : String} {source : Option String} {id : String} {v : StoredVersion} :
    Stage.pending.label ∈ (v.relabel target source id).labels ↔ Stage.pending.label ∈ v.labels ∧ target ≠ id := by
  have hp := Stage.label_ne_previous .pending
  have hc : Stage.pending.label ≠ Stage.current.label := by decide
  unfold relabel
  by_cases hs : source = some id <;> by_cases ht : target = id <;>
    simp [hs, ht, mem_labels_add, mem_labels_drop, hp, hc]

end StoredVersion

namespace Description

variable {d : Description} {id : String} {stage : Stage}

theorem hasStage_iff_labels :
    d.hasStage id stage = true ↔ ∃ labels, d.labels? id = some labels ∧ stage.label ∈ labels := by
  unfold hasStage
  cases d.labels? id <;> simp

theorem hasStage_of_current? (ordered : Table.Ordered d.versions) (h : d.current? = some id) :
    d.hasStage id .current = true := by
  obtain ⟨⟨id', labels⟩, hf, rfl⟩ := Option.map_eq_some_iff.1 h
  obtain ⟨hg, hl⟩ := Table.find?_some ordered hf
  exact hasStage_iff_labels.2 ⟨labels, hg, by simpa using hl⟩

theorem hasStage_of_current?_none (h : d.current? = none) (id : String) : d.hasStage id .current = false := by
  refine Bool.eq_false_iff.2 fun hs => ?_
  obtain ⟨labels, hg, hl⟩ := hasStage_iff_labels.1 hs
  have := Table.find?_none (Option.map_eq_none_iff.1 h) hg
  simp [hl] at this

/-- Each version is described once, and one at most is current. -/
structure LoneCurrent (d : Description) : Prop where
  ordered : Table.Ordered d.versions
  unique : ∀ {i j : String}, d.hasStage i .current = true → d.hasStage j .current = true → i = j

/-- **The current version of a description** is the one with the label, if there is one. -/
theorem LoneCurrent.current?_iff (lone : d.LoneCurrent) :
    d.current? = some id ↔ d.hasStage id .current = true := by
  refine ⟨hasStage_of_current? lone.ordered, fun h => ?_⟩
  cases hc : d.current? with
  | none => cases h.symm.trans (hasStage_of_current?_none hc id)
  | some id' => rw [lone.unique h (hasStage_of_current? lone.ordered hc)]

end Description

namespace SecretStore

/-- Secrets in increasing order of ids, and the versions of each in increasing order of theirs. -/
structure Ordered (store : SecretStore) : Prop where
  secrets : Table.Ordered store
  versions : ∀ {secret s}, Table.get? secret store = some s → Table.Ordered s.versions

theorem ordered_iff {store : SecretStore} :
    store.Ordered ↔ Table.Ordered store ∧ ∀ e ∈ store, Table.Ordered e.2.versions := by
  constructor
  · intro h
    exact ⟨h.secrets, fun e he => h.versions ((Table.get?_eq_some_iff h.secrets).2 he)⟩
  · rintro ⟨hs, hv⟩
    exact ⟨hs, fun hg => hv _ (Table.mem_of_get? hg)⟩

instance (store : SecretStore) : Decidable store.Ordered := decidable_of_iff _ ordered_iff.symm

/-- A version of a secret. -/
def version? (store : SecretStore) (secret id : String) : Option StoredVersion :=
  (Table.get? secret store).bind fun s => Table.get? id s.versions

/-- The value that a version holds. -/
def value? (store : SecretStore) (secret id : String) : Option String := (store.version? secret id).bind (·.value)

/-- Whether a secret may be rotated, if there is such a secret. -/
def enabled? (store : SecretStore) (secret : String) : Option Bool := (Table.get? secret store).map (·.rotationEnabled)

/-- A version carries the label of a stage. -/
def Carries (store : SecretStore) (secret : String) (stage : Stage) (id : String) : Prop :=
  ∃ v, store.version? secret id = some v ∧ stage.label ∈ v.labels

variable {store : SecretStore} {secret token value target : String} {stage : Stage} {source : Option String}

theorem Carries.secret_mem {id : String} (h : store.Carries secret stage id) :
    ∃ s, Table.get? secret store = some s := by
  obtain ⟨v, hv, -⟩ := h
  obtain ⟨s, hs, -⟩ := Option.bind_eq_some_iff.1 hv
  exact ⟨s, hs⟩

theorem version?_of_get? {s : StoredSecret} (h : Table.get? secret store = some s) (id : String) :
    store.version? secret id = Table.get? id s.versions := by
  unfold version?
  rw [h]
  rfl

/-! ## Storing a value -/

theorem version?_set (s : StoredSecret) (other id : String) :
    SecretStore.version? (Table.set secret s store) other id =
      if secret = other then Table.get? id s.versions else store.version? other id := by
  unfold version?
  rw [Table.get?_set]
  split <;> rfl

theorem version?_putValue (other id : String) :
    (store.putValue secret token value stage).version? other id =
      if secret = other then
        if token = id then some ⟨some value, [stage.label]⟩
        else (store.version? secret id).map (StoredVersion.drop stage.label)
      else store.version? other id := by
  unfold putValue
  simp only
  rw [version?_set, Table.get?_set, Table.get?_mapValues]
  split
  · split
    · rfl
    · unfold version?
      cases Table.get? secret store <;> rfl
  · rfl

theorem value?_putValue (other id : String) :
    (store.putValue secret token value stage).value? other id =
      if secret = other ∧ token = id then some value else store.value? other id := by
  unfold value?
  rw [version?_putValue]
  by_cases hs : secret = other
  · subst hs
    by_cases ht : token = id
    · simp [ht]
    · rw [if_pos rfl, if_neg ht, if_neg fun h => ht h.2]
      cases store.version? secret id <;> rfl
  · rw [if_neg hs, if_neg fun h => hs h.1]

theorem value?_putValue_self : (store.putValue secret token value stage).value? secret token = some value := by
  rw [value?_putValue, if_pos ⟨rfl, rfl⟩]

/-- **The stage of a value that is stored lives on its version alone**; all other labels stay where they are, except
those of the version itself. -/
theorem carries_putValue {other id : String} {s : Stage} :
    (store.putValue secret token value stage).Carries other s id ↔
      if secret = other then if token = id then s = stage else s ≠ stage ∧ store.Carries secret s id
      else store.Carries other s id := by
  unfold Carries
  rw [version?_putValue]
  split
  · split
    · simp only [Option.some.injEq, exists_eq_left', List.mem_singleton]
      exact ⟨Stage.label_injective, congrArg _⟩
    · simp only [Option.map_eq_some_iff]
      constructor
      · rintro ⟨_, ⟨v, hv, rfl⟩, hl⟩
        have hl := StoredVersion.mem_labels_drop.1 hl
        exact ⟨fun he => hl.2 (congrArg _ he), v, hv, hl.1⟩
      · rintro ⟨hne, v, hv, hl⟩
        exact ⟨_, ⟨v, hv, rfl⟩, StoredVersion.mem_labels_drop.2 ⟨hl, fun he => hne (Stage.label_injective he)⟩⟩
  · rfl

theorem enabled?_putValue {s : StoredSecret} (known : Table.get? secret store = some s) (other : String) :
    (store.putValue secret token value stage).enabled? other = store.enabled? other := by
  unfold putValue enabled?
  simp only
  rw [known, Table.get?_set]
  split
  · rename_i he
    rw [← he, known]
    rfl
  · rfl

theorem ordered_set {s : StoredSecret} (h : store.Ordered) (hs : Table.Ordered s.versions) :
    SecretStore.Ordered (Table.set secret s store) := by
  refine ⟨Table.ordered_set _ _ h.secrets, fun {other s'} hg => ?_⟩
  rw [Table.get?_set] at hg
  split at hg
  · cases hg
    exact hs
  · exact h.versions hg

theorem ordered_putValue (h : store.Ordered) : (store.putValue secret token value stage).Ordered := by
  refine ordered_set h (Table.ordered_set _ _ (Table.ordered_mapValues _ ?_))
  cases hg : Table.get? secret store with
  | none => exact List.Pairwise.nil
  | some s => exact h.versions hg

/-! ## Promoting a version -/

/-- The versions once `source`, if there is one, has become the previous version. -/
def demote (source : Option String) (versions : Table StoredVersion) : Table StoredVersion :=
  match source with
  | none => versions
  | some id => Table.modify id (fun v => (v.drop Stage.current.label).add previousLabel) versions

theorem get?_demote (source : Option String) (id : String) (versions : Table StoredVersion) :
    Table.get? id (demote source versions) = (Table.get? id versions).map fun v =>
      if source = some id then (v.drop Stage.current.label).add previousLabel else v := by
  cases source with
  | none => simp [demote]
  | some from_ =>
    unfold demote
    rw [Table.get?_modify]
    by_cases hf : from_ = id <;> simp [hf]

theorem keys_demote (versions : Table StoredVersion) :
    (demote source versions).map Prod.fst = versions.map Prod.fst := by
  cases source with
  | none => rfl
  | some from_ => exact Table.keys_modify _ _ _

/-- A promotion to a version that exists succeeds, and only relabels versions of its secret. -/
theorem promote_known {s : StoredSecret} {v : StoredVersion} (source : Option String)
    (known : Table.get? secret store = some s)
    (found : Table.get? target s.versions = some v) :
    ∃ versions, store.promote secret target source = (.ok (), Table.set secret { s with versions } store) ∧
      versions.map Prod.fst = s.versions.map Prod.fst ∧
      ∀ id, Table.get? id versions = (Table.get? id s.versions).map (StoredVersion.relabel target source id) := by
  refine ⟨Table.modify target (fun v => (v.drop Stage.pending.label).add Stage.current.label)
      (demote source s.versions),
    ?_, (Table.keys_modify _ _ _).trans (keys_demote _), fun id => ?_⟩
  · have hd := get?_demote source target s.versions
    rw [found] at hd
    unfold promote
    rw [known]
    simp only
    split
    · rename_i hn
      cases hd.symm.trans hn
    · rfl
  · rw [Table.get?_modify, get?_demote]
    unfold StoredVersion.relabel
    by_cases ht : target = id <;> cases Table.get? id s.versions <;> simp [ht]

variable {version : StoredVersion}

theorem promote_ok (known : store.version? secret target = some version) :
    (store.promote secret target source).1 = .ok () := by
  obtain ⟨s, hs, hv⟩ := Option.bind_eq_some_iff.1 known
  obtain ⟨versions, he, -, -⟩ := promote_known source hs hv
  rw [he]

theorem version?_promote (known : store.version? secret target = some version) (other id : String) :
    (store.promote secret target source).2.version? other id =
      if secret = other then (store.version? secret id).map (StoredVersion.relabel target source id)
      else store.version? other id := by
  obtain ⟨s, hs, hv⟩ := Option.bind_eq_some_iff.1 known
  obtain ⟨versions, he, -, hg⟩ := promote_known source hs hv
  rw [he, version?_set]
  simp only
  rw [hg, version?_of_get? hs]

theorem value?_promote (known : store.version? secret target = some version) (other id : String) :
    (store.promote secret target source).2.value? other id = store.value? other id := by
  unfold value?
  rw [version?_promote known]
  split
  · rename_i he
    subst he
    cases store.version? secret id with
    | none => rfl
    | some v => exact StoredVersion.value_relabel target source id v
  · rfl

/-- **A promotion gives the current label to its target**, takes it from its source and the pending label from the
target; nobody else is touched. -/
theorem carries_promote (known : store.version? secret target = some version) {other id : String} :
    (store.promote secret target source).2.Carries other stage id ↔
      if secret = other then
        match stage with
        | .current => target = id ∨ store.Carries secret .current id ∧ source ≠ some id
        | .pending => store.Carries secret .pending id ∧ target ≠ id
      else store.Carries other stage id := by
  unfold Carries
  rw [version?_promote known]
  split
  · simp only [Option.map_eq_some_iff]
    cases stage with
    | current =>
      constructor
      · rintro ⟨_, ⟨v, hv, rfl⟩, hl⟩
        rcases StoredVersion.current_mem_relabel.1 hl with ht | ⟨hc, hs⟩
        · exact .inl ht
        · exact .inr ⟨⟨v, hv, hc⟩, hs⟩
      · rintro (rfl | ⟨⟨v, hv, hc⟩, hs⟩)
        · exact ⟨_, ⟨version, known, rfl⟩, StoredVersion.current_mem_relabel.2 (.inl rfl)⟩
        · exact ⟨_, ⟨v, hv, rfl⟩, StoredVersion.current_mem_relabel.2 (.inr ⟨hc, hs⟩)⟩
    | pending =>
      constructor
      · rintro ⟨_, ⟨v, hv, rfl⟩, hl⟩
        obtain ⟨hp, ht⟩ := StoredVersion.pending_mem_relabel.1 hl
        exact ⟨⟨v, hv, hp⟩, ht⟩
      · rintro ⟨⟨v, hv, hp⟩, ht⟩
        exact ⟨_, ⟨v, hv, rfl⟩, StoredVersion.pending_mem_relabel.2 ⟨hp, ht⟩⟩
  · rfl

theorem current_promote (known : store.version? secret target = some version) :
    (store.promote secret target source).2.Carries secret .current target :=
  (carries_promote known).2 (by rw [if_pos rfl]; exact .inl rfl)

theorem enabled?_promote (known : store.version? secret target = some version) (other : String) :
    (store.promote secret target source).2.enabled? other = store.enabled? other := by
  obtain ⟨s, hs, hv⟩ := Option.bind_eq_some_iff.1 known
  obtain ⟨versions, he, -, -⟩ := promote_known source hs hv
  rw [he]
  unfold enabled?
  simp only
  rw [Table.get?_set]
  split
  · rename_i ho
    rw [← ho, hs]
    rfl
  · rfl

theorem ordered_promote (h : store.Ordered) (known : store.version? secret target = some version) :
    (store.promote secret target source).2.Ordered := by
  obtain ⟨s, hs, hv⟩ := Option.bind_eq_some_iff.1 known
  obtain ⟨versions, he, hk, -⟩ := promote_known source hs hv
  rw [he]
  exact ordered_set h ((Table.ordered_iff_of_keys hk).2 (h.versions hs))

/-! ## Reading -/

theorem matchesSelector_iff {selector : Selector} {id : String} {v : StoredVersion} :
    v.matchesSelector selector id = true ↔
      (∃ text, v.value = some text) ∧ (∀ wanted ∈ selector.id?, wanted = id) ∧ selector.wanted.label ∈ v.labels := by
  simp [StoredVersion.matchesSelector, Option.isSome_iff_exists, Option.all_eq_true, and_assoc]

/-- **What is read** is the value of a version that the selector asks for. -/
theorem getValue_some (h : store.Ordered) {selector : Selector} {found : SecretValue}
    (hg : store.getValue secret selector = some found) :
    (∀ wanted ∈ selector.id?, wanted = found.version) ∧ store.Carries secret selector.wanted found.version ∧
      store.value? secret found.version = some found.text := by
  obtain ⟨s, hs, hg⟩ := Option.bind_eq_some_iff.1 hg
  obtain ⟨⟨id, v⟩, hf, hg⟩ := Option.bind_eq_some_iff.1 hg
  obtain ⟨text, ht, hg⟩ := Option.bind_eq_some_iff.1 hg
  cases hg
  obtain ⟨hid, hm⟩ := Table.find?_some (h.versions hs) hf
  obtain ⟨-, hw, hl⟩ := matchesSelector_iff.1 hm
  have hv : store.version? secret id = some v := (version?_of_get? hs id).trans hid
  refine ⟨hw, ⟨v, hv, hl⟩, ?_⟩
  unfold value?
  rw [hv]
  exact ht

/-- **Nothing is read** only if no version that the selector asks for holds a value. -/
theorem getValue_none {selector : Selector} (hg : store.getValue secret selector = none) {id : String}
    (wanted : ∀ w ∈ selector.id?, w = id) (carries : store.Carries secret selector.wanted id) :
    store.value? secret id = none := by
  obtain ⟨v, hv, hl⟩ := carries
  obtain ⟨s, hs, hid⟩ := Option.bind_eq_some_iff.1 hv
  unfold value?
  rw [hv]
  cases ht : v.value with
  | none => exact ht
  | some text =>
    obtain ⟨⟨id', v'⟩, hf, hm⟩ := Table.find?_isSome (p := fun e => e.2.matchesSelector selector e.1) hid
      (matchesSelector_iff.2 ⟨⟨text, ht⟩, wanted, hl⟩)
    obtain ⟨⟨text', ht'⟩, -⟩ := matchesSelector_iff.1 hm
    have hnone : (v'.value.bind fun text => some (⟨id', text⟩ : SecretValue)) = none :=
      Option.bind_eq_none_iff.1 (Option.bind_eq_none_iff.1 hg s hs) ⟨id', v'⟩ hf
    rw [show v'.value = some text' from ht'] at hnone
    cases hnone

/-- Of the only version that a selector may mean, the value is read. -/
theorem getValue_eq_some (h : store.Ordered) {selector : Selector} {id text : String}
    (wanted : ∀ w ∈ selector.id?, w = id) (carries : store.Carries secret selector.wanted id)
    (value : store.value? secret id = some text)
    (only : ∀ other, (∀ w ∈ selector.id?, w = other) → store.Carries secret selector.wanted other → other = id) :
    store.getValue secret selector = some ⟨id, text⟩ := by
  cases hg : store.getValue secret selector with
  | none => cases (getValue_none hg wanted carries).symm.trans value
  | some found =>
    obtain ⟨hid, hcarries, hvalue⟩ := getValue_some h hg
    obtain rfl := only found.version hid hcarries
    cases hvalue.symm.trans value
    rfl

/-- What a description says is what the store holds. -/
theorem describe_ok {d : Description} (hd : store.describe secret = .ok d) :
    store.enabled? secret = some d.rotationEnabled ∧
      (∀ id, d.labels? id = (store.version? secret id).map (·.labels)) ∧
      ∃ s, Table.get? secret store = some s ∧ d.versions = Table.mapValues (·.labels) s.versions := by
  unfold describe at hd
  cases hs : Table.get? secret store with
  | none => rw [hs] at hd; cases hd
  | some s =>
    rw [hs] at hd
    cases hd
    refine ⟨by simp [enabled?, hs], fun id => ?_, s, rfl, rfl⟩
    rw [version?_of_get? hs]
    exact Table.get?_mapValues _ _ _

theorem hasStage_iff {d : Description} (hd : store.describe secret = .ok d) {id : String} :
    d.hasStage id stage = true ↔ store.Carries secret stage id := by
  unfold Description.hasStage Carries
  rw [(describe_ok hd).2.1 id, Option.any_map]
  cases store.version? secret id <;> simp

theorem ordered_describe {d : Description} (h : store.Ordered) (hd : store.describe secret = .ok d) :
    Table.Ordered d.versions := by
  obtain ⟨-, -, s, hs, hv⟩ := describe_ok hd
  rw [hv]
  exact Table.ordered_mapValues _ (h.versions hs)

theorem current?_some {d : Description} (h : store.Ordered) (hd : store.describe secret = .ok d) {id : String}
    (hc : d.current? = some id) : store.Carries secret .current id :=
  (hasStage_iff hd).1 (Description.hasStage_of_current? (ordered_describe h hd) hc)

theorem current?_none {d : Description} (hd : store.describe secret = .ok d) (hc : d.current? = none) (id : String) :
    ¬ store.Carries secret .current id := fun hcarries =>
  Bool.noConfusion ((Description.hasStage_of_current?_none hc id).symm.trans ((hasStage_iff hd).2 hcarries))

end SecretStore
end SearchDomain
