import SearchDomain.Table
/-!
# OrderedTable — tables with increasing keys

`get?` reads the first entry with a key. While keys increase there is only one, so what is found under a key is what
is listed with it (`get?_eq_some_iff`), and a search through the entries may be told in terms of `get?`. Writing keeps
the order.
-/
namespace SearchDomain.Table

variable {α β : Type}

/-- Keys increase from entry to entry. -/
def Ordered (t : Table α) : Prop := t.Pairwise fun e f => e.1 < f.1

instance (t : Table α) : Decidable (Ordered t) := inferInstanceAs (Decidable (t.Pairwise fun e f => e.1 < f.1))

theorem mem_of_get? {key : String} {value : α} : ∀ {t : Table α}, get? key t = some value → (key, value) ∈ t
  | (k, v) :: rest, h => by
    rw [get?] at h
    split at h
    · rename_i hk
      cases h
      rw [hk]
      exact List.mem_cons_self
    · exact List.mem_cons_of_mem _ (mem_of_get? h)

/-- **What is listed with a key is what is found under it.** -/
theorem get?_eq_some_iff {key : String} {value : α} :
    ∀ {t : Table α}, Ordered t → (get? key t = some value ↔ (key, value) ∈ t)
  | [], _ => by simp [get?]
  | (k, v) :: rest, h => by
    refine ⟨mem_of_get?, fun hm => ?_⟩
    rcases List.mem_cons.1 hm with he | hm
    · cases he
      rw [get?, if_pos rfl]
    · have hk : k ≠ key := fun he => String.lt_irrefl key (by simpa [he] using List.rel_of_pairwise_cons h hm)
      rw [get?, if_neg hk]
      exact (get?_eq_some_iff h.of_cons).2 hm

theorem lt_of_mem_set {key low : String} {value : α} {e : String × α} (hkey : low < key) :
    ∀ {t : Table α}, (∀ f ∈ t, low < f.1) → e ∈ set key value t → low < e.1
  | [], _, he => by
    rw [List.mem_singleton.1 he]
    exact hkey
  | (k, v) :: rest, h, he => by
    unfold set at he
    split at he
    · rcases List.mem_cons.1 he with he | he
      · rw [he]
        exact hkey
      · exact h e (List.mem_cons_of_mem _ he)
    split at he
    · rcases List.mem_cons.1 he with he | he
      · rw [he]
        exact hkey
      · exact h e he
    · rcases List.mem_cons.1 he with he | he
      · rw [he]
        exact h (k, v) List.mem_cons_self
      · exact lt_of_mem_set hkey (fun f hf => h f (List.mem_cons_of_mem _ hf)) he

theorem ordered_set (key : String) (value : α) : ∀ {t : Table α}, Ordered t → Ordered (set key value t)
  | [], _ => List.pairwise_singleton _ _
  | (k, v) :: rest, h => by
    have hrest : ∀ f ∈ rest, k < f.1 := fun f hf => List.rel_of_pairwise_cons h hf
    unfold set
    split
    · rename_i he
      exact List.pairwise_cons.2 ⟨fun f hf => by rw [he]; exact hrest f hf, h.of_cons⟩
    split
    · rename_i hlt
      refine List.pairwise_cons.2 ⟨fun f hf => ?_, h⟩
      rcases List.mem_cons.1 hf with hf | hf
      · rw [hf]
        exact hlt
      · exact String.lt_trans hlt (hrest f hf)
    · rename_i hne hnlt
      have hlt : k < key := Std.lt_of_le_of_ne (String.not_lt.1 hnlt) (Ne.symm hne)
      exact List.pairwise_cons.2 ⟨fun f hf => lt_of_mem_set hlt hrest hf, ordered_set key value h.of_cons⟩

/-! ## Tables of listed entries -/

theorem ordered_foldl_set : ∀ (entries : List (String × α)) {t : Table α}, Ordered t →
    Ordered (entries.foldl (fun t e => set e.1 e.2 t) t)
  | [], _, h => h
  | e :: entries, _, h => ordered_foldl_set entries (ordered_set e.1 e.2 h)

theorem ordered_ofList (entries : List (String × α)) : Ordered (ofList entries) :=
  ordered_foldl_set entries List.Pairwise.nil

theorem mem_set {key : String} {value : α} {e : String × α} :
    ∀ {t : Table α}, e ∈ set key value t → e = (key, value) ∨ e ∈ t
  | [], h => .inl (List.mem_singleton.1 h)
  | (k, v) :: rest, h => by
    unfold set at h
    split at h
    · exact (List.mem_cons.1 h).imp_right (List.mem_cons_of_mem _)
    split at h
    · exact List.mem_cons.1 h
    · rcases List.mem_cons.1 h with rfl | h
      · exact .inr List.mem_cons_self
      · exact (mem_set h).imp_right (List.mem_cons_of_mem _)

theorem mem_foldl_set {e : String × α} : ∀ {entries : List (String × α)} {t : Table α},
    e ∈ entries.foldl (fun t e => set e.1 e.2 t) t → e ∈ entries ∨ e ∈ t
  | [], _, h => .inr h
  | f :: entries, t, h => by
    have split : e ∈ entries ∨ e ∈ set f.1 f.2 t := mem_foldl_set h
    rcases split with h | h
    · exact .inl (List.mem_cons_of_mem _ h)
    · rcases mem_set h with rfl | h
      · exact .inl List.mem_cons_self
      · exact .inr h

/-- Nothing is in a table that was not listed. -/
theorem mem_ofList {entries : List (String × α)} {e : String × α} (h : e ∈ ofList entries) : e ∈ entries :=
  (mem_foldl_set h).resolve_right List.not_mem_nil

theorem set_of_forall_lt {key : String} {value : α} :
    ∀ {t : Table α}, (∀ e ∈ t, e.1 < key) → set key value t = t ++ [(key, value)]
  | [], _ => rfl
  | (k, v) :: rest, h => by
    have hlt : k < key := h _ List.mem_cons_self
    have hne : key ≠ k := fun he => String.lt_irrefl key (by rwa [← he] at hlt)
    rw [set, if_neg hne, if_neg (String.not_lt.2 (Std.le_of_lt hlt)),
      set_of_forall_lt fun e he => h e (List.mem_cons_of_mem _ he)]
    rfl

theorem foldl_set_of_ordered : ∀ {entries : List (String × α)} {t : Table α}, Ordered (t ++ entries) →
    entries.foldl (fun t e => set e.1 e.2 t) t = t ++ entries
  | [], t, _ => (List.append_nil t).symm
  | (key, value) :: entries, t, h => by
    have below : ∀ e ∈ t, e.1 < key := fun e he => (List.pairwise_append.1 h).2.2 e he _ List.mem_cons_self
    have step : t ++ (key, value) :: entries = t ++ [(key, value)] ++ entries := by rw [List.append_assoc]; rfl
    rw [List.foldl_cons, set_of_forall_lt below, step, foldl_set_of_ordered (step ▸ h)]

/-- **Entries that are in order are a table as they stand.** -/
theorem ofList_of_ordered {entries : List (String × α)} (h : Ordered entries) : ofList entries = entries :=
  foldl_set_of_ordered (t := []) h

/-! ## Keys that stay -/

/-- The order depends on the keys alone. -/
theorem ordered_iff_of_keys {t : Table α} {u : Table β} (h : t.map Prod.fst = u.map Prod.fst) :
    Ordered t ↔ Ordered u := by
  unfold Ordered
  rw [← List.pairwise_map (f := Prod.fst) (R := (· < ·)), h, List.pairwise_map]

theorem keys_modify (key : String) (f : α → α) : ∀ t : Table α, (modify key f t).map Prod.fst = t.map Prod.fst
  | [] => rfl
  | (k, v) :: rest => by
    unfold modify
    split
    · rfl
    · rw [List.map_cons, List.map_cons, keys_modify key f rest]

theorem keys_mapValues (f : α → β) (t : Table α) : (mapValues f t).map Prod.fst = t.map Prod.fst := by
  unfold mapValues
  rw [List.map_map]
  rfl

theorem ordered_mapValues (f : α → β) {t : Table α} (h : Ordered t) : Ordered (mapValues f t) :=
  (ordered_iff_of_keys (keys_mapValues f t)).2 h

theorem get?_mapValues (key : String) (f : α → β) : ∀ t : Table α, get? key (mapValues f t) = (get? key t).map f
  | [] => rfl
  | (k, v) :: rest => by
    have ih := get?_mapValues key f rest
    unfold mapValues at ih ⊢
    rw [List.map_cons, get?, get?, ih]
    split <;> rfl

/-! ## The first entry that passes a test -/

theorem find?_some {p : String × α → Bool} {key : String} {value : α} {t : Table α} (ordered : Ordered t)
    (h : t.find? p = some (key, value)) : get? key t = some value ∧ p (key, value) = true :=
  ⟨(get?_eq_some_iff ordered).2 (List.mem_of_find?_eq_some h), List.find?_some h⟩

theorem find?_none {p : String × α → Bool} {t : Table α} (h : t.find? p = none) {key : String} {value : α}
    (hg : get? key t = some value) : p (key, value) = false := by
  simpa using List.find?_eq_none.1 h (key, value) (mem_of_get? hg)

theorem find?_isSome {p : String × α → Bool} {t : Table α} {key : String} {value : α} (hg : get? key t = some value)
    (hp : p (key, value) = true) : ∃ e, t.find? p = some e ∧ p e = true := by
  cases h : t.find? p with
  | none => cases (find?_none h hg).symm.trans hp
  | some e => exact ⟨e, rfl, List.find?_some h⟩

end SearchDomain.Table
