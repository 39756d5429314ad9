import SearchDomain.Proofs.Lockstep
import SearchDomain.Proofs.SecretStore.View
/-!
# Likeness — secret stores that differ in nothing but passwords

Two stores are alike if they have the same secrets, versions and labels, and values that are alike. What one says of
itself the other says too, what is found in one is found in the other, and they stay alike when the same happens to
both (`alike_putValue`, `alike_promote`).
-/
namespace SearchDomain

namespace Table

variable {α β γ δ : Type} {R : α → β → Prop} {S : γ → δ → Prop} {t : Table α} {u : Table β} {key : String}

/-- Tables with the same keys, in the same order, and related values. -/
def Alike (R : α → β → Prop) (t : Table α) (u : Table β) : Prop := List.Forall₂ (fun e f => e.1 = f.1 ∧ R e.2 f.2) t u

theorem Alike.get? (h : Alike R t u) (key : String) : Option.Rel R (Table.get? key t) (Table.get? key u) := by
  induction h with
  | nil => exact .none
  | @cons e f _ _ first _ ih =>
    obtain ⟨k, x⟩ := e
    obtain ⟨_, y⟩ := f
    obtain ⟨rfl, values⟩ := first
    unfold Table.get?
    split
    · exact .some values
    · exact ih

theorem Alike.set {x : α} {y : β} (h : Alike R t u) (values : R x y) : Alike R (set key x t) (set key y u) := by
  induction h with
  | nil => exact .cons ⟨rfl, values⟩ .nil
  | @cons e f _ _ first rest ih =>
    obtain ⟨k, _⟩ := e
    obtain ⟨_, _⟩ := f
    obtain ⟨rfl, others⟩ := first
    unfold Table.set
    split
    · exact .cons ⟨rfl, values⟩ rest
    split
    · exact .cons ⟨rfl, values⟩ (.cons ⟨rfl, others⟩ rest)
    · exact .cons ⟨rfl, others⟩ ih

theorem Alike.modify {f : α → α} {g : β → β} (h : Alike R t u) (same : ∀ x y, R x y → R (f x) (g y)) :
    Alike R (modify key f t) (modify key g u) := by
  induction h with
  | nil => exact .nil
  | @cons e e' _ _ first rest ih =>
    obtain ⟨k, x⟩ := e
    obtain ⟨_, y⟩ := e'
    obtain ⟨rfl, values⟩ := first
    unfold Table.modify
    split
    · exact .cons ⟨rfl, same x y values⟩ rest
    · exact .cons ⟨rfl, values⟩ ih

theorem Alike.mapValues {f : α → γ} {g : β → δ} (h : Alike R t u) (same : ∀ x y, R x y → S (f x) (g y)) :
    Alike S (mapValues f t) (mapValues g u) := by
  unfold Table.mapValues Alike
  rw [List.forall₂_map_left_iff, List.forall₂_map_right_iff]
  exact h.imp fun _ _ ⟨keys, values⟩ => ⟨keys, same _ _ values⟩

theorem Alike.find? {p : String × α → Bool} {q : String × β → Bool} (h : Alike R t u)
    (same : ∀ k x y, R x y → p (k, x) = q (k, y)) :
    Option.Rel (fun e f => e.1 = f.1 ∧ R e.2 f.2) (List.find? p t) (List.find? q u) := by
  induction h with
  | nil => exact .none
  | @cons e f _ _ first _ ih =>
    obtain ⟨k, x⟩ := e
    obtain ⟨_, y⟩ := f
    obtain ⟨rfl, values⟩ := first
    rw [List.find?_cons, List.find?_cons, ← same k x y values]
    split
    · exact .some ⟨rfl, values⟩
    · exact ih

theorem Alike.eq {t u : Table α} (h : Alike (· = ·) t u) : t = u := by
  induction h with
  | nil => rfl
  | cons first _ ih => rw [Prod.ext first.1 first.2, ih]

end Table

/-- Versions with the same labels and values that are alike, if they have any. -/
structure StoredVersion.Alike (v w : StoredVersion) : Prop where
  values : Option.Rel AlikeTexts v.value w.value
  labels : v.labels = w.labels

structure StoredSecret.Alike (s s' : StoredSecret) : Prop where
  enabled : s.rotationEnabled = s'.rotationEnabled
  versions : Table.Alike StoredVersion.Alike s.versions s'.versions

theorem StoredVersion.Alike.drop {v w : StoredVersion} (h : v.Alike w) (label : String) :
    (v.drop label).Alike (w.drop label) := ⟨h.values, congrArg (List.filter _) h.labels⟩

theorem StoredVersion.Alike.add {v w : StoredVersion} (h : v.Alike w) (label : String) :
    (v.add label).Alike (w.add label) := ⟨h.values, congrArg (· ++ [label]) h.labels⟩

theorem StoredVersion.Alike.matchesSelector {v w : StoredVersion} (h : v.Alike w) (selector : Selector) (id : String) :
    v.matchesSelector selector id = w.matchesSelector selector id := by
  obtain ⟨value, labels⟩ := v
  obtain ⟨value', _⟩ := w
  obtain ⟨values, rfl⟩ := h
  cases values <;> rfl

namespace SecretStore

def Alike (store store' : SecretStore) : Prop := Table.Alike StoredSecret.Alike store store'

variable {store store' : SecretStore} {secret target : String} {source : Option String}

theorem Alike.describe (h : store.Alike store') (secret : String) : store.describe secret = store'.describe secret := by
  have found := h.get? secret
  unfold SecretStore.describe
  generalize Table.get? secret store = s, Table.get? secret store' = s' at found
  cases found with
  | none => rfl
  | @some s s' alike =>
    have labels :
        Table.Alike (· = ·) (Table.mapValues (·.labels) s.versions) (Table.mapValues (·.labels) s'.versions) :=
      alike.versions.mapValues fun _ _ => StoredVersion.Alike.labels
    simp only [alike.enabled, labels.eq]

theorem Alike.getValue (h : store.Alike store') (secret : String) (selector : Selector) :
    Option.Rel SecretValue.Alike (store.getValue secret selector) (store'.getValue secret selector) := by
  have found := h.get? secret
  unfold SecretStore.getValue
  generalize Table.get? secret store = s, Table.get? secret store' = s' at found
  cases found with
  | none => exact .none
  | @some s s' alike =>
    have matching := alike.versions.find? (p := fun e => e.2.matchesSelector selector e.1)
      (q := fun e => e.2.matchesSelector selector e.1) fun id v w h => h.matchesSelector selector id
    simp only [Option.bind_eq_bind, Option.bind_some]
    generalize List.find? _ s.versions = e, List.find? _ s'.versions = f at matching
    cases matching with
    | none => exact .none
    | @some e f alike =>
      obtain ⟨id, v, labels⟩ := e
      obtain ⟨_, w, _⟩ := f
      obtain ⟨rfl, values, rfl⟩ := alike
      cases values with
      | none => exact .none
      | some texts => exact .some ⟨rfl, texts⟩

/-- **Stores stay alike when alike values are stored** in the same place. -/
theorem Alike.putValue {value value' : String} (h : store.Alike store') (texts : AlikeTexts value value')
    (secret token : String) (stage : Stage) :
    SecretStore.Alike (store.putValue secret token value stage) (store'.putValue secret token value' stage) := by
  have found : StoredSecret.Alike ((Table.get? secret store).getD { rotationEnabled := false })
      ((Table.get? secret store').getD { rotationEnabled := false }) := by
    have found := h.get? secret
    generalize Table.get? secret store = s, Table.get? secret store' = s' at found
    cases found with
    | none => exact ⟨rfl, .nil⟩
    | some alike => exact alike
  have versions := found.versions.mapValues (S := StoredVersion.Alike) fun _ _ h => h.drop stage.label
  exact Table.Alike.set h ⟨found.enabled, versions.set ⟨.some texts, rfl⟩⟩

theorem alike_demote {versions versions' : Table StoredVersion} (h : Table.Alike StoredVersion.Alike versions versions')
    (source : Option String) : Table.Alike StoredVersion.Alike (demote source versions) (demote source versions') := by
  cases source with
  | none => exact h
  | some id => exact h.modify fun _ _ alike => (alike.drop _).add _

theorem promote_eq {s : StoredSecret} (known : Table.get? secret store = some s) (target : String)
    (source : Option String) :
    store.promote secret target source = match Table.get? target (demote source s.versions) with
      | none => (.error (.secretAccess secret "unknown version"),
        Table.set secret { s with versions := demote source s.versions } store)
      | some _ => (.ok (), Table.set secret { s with
          versions := Table.modify target (fun v => (v.drop Stage.pending.label).add Stage.current.label)
            (demote source s.versions) } store) := by
  unfold SecretStore.promote
  rw [known]
  rfl

/-- **Stores stay alike when the same version is promoted** in both, and the promotion has the same result. -/
theorem Alike.promote (h : store.Alike store') (secret target : String) (source : Option String) :
    (store.promote secret target source).1 = (store'.promote secret target source).1 ∧
      SecretStore.Alike (store.promote secret target source).2 (store'.promote secret target source).2 := by
  have found := h.get? secret
  generalize known : Table.get? secret store = s, known' : Table.get? secret store' = s' at found
  cases found with
  | none =>
    unfold SecretStore.promote
    rw [known, known']
    exact ⟨rfl, h⟩
  | @some s s' alike =>
    have demoted := alike_demote alike.versions source
    rw [promote_eq known, promote_eq known']
    have goal := demoted.get? target
    generalize Table.get? target (demote source s.versions) = v,
      Table.get? target (demote source s'.versions) = w at goal
    cases goal with
    | none => exact ⟨rfl, Table.Alike.set h ⟨alike.enabled, demoted⟩⟩
    | some _ => exact ⟨rfl, Table.Alike.set h ⟨alike.enabled, demoted.modify fun _ _ alike => (alike.drop _).add _⟩⟩

end SecretStore
end SearchDomain
