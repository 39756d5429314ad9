import SearchDomain.Proofs.Text.Percent
import SearchDomain.Text.Composed
/-!
# Composed — ASCII texts are in composed form

No ASCII character can be taken apart, none is a mark, and none is joined to what stands before it. So a text of ASCII
characters is its own composed form (`composed_of_ascii`).
-/
namespace SearchDomain.Text

variable {c : Char} {cs rest : List Char}

/-- What a second character makes is beyond ASCII, and so is the second character. -/
def IsBeyond (row : Nat × String) : Prop :=
  128 ≤ (Char.ofNat row.1).toNat ∧ ∀ t ∈ pairsOf (Char.ofNat row.1) row.2.toList, 128 ≤ t.2.2.toNat

theorem isBeyond_ofList {n : Nat} {pairs : List Char}
    (h : 128 ≤ (Char.ofNat n).toNat ∧ ∀ t ∈ pairsOf (Char.ofNat n) pairs, 128 ≤ t.2.2.toNat) :
    IsBeyond (n, String.ofList pairs) := by
  unfold IsBeyond
  rwa [String.toList_ofList]

-- row by row: the characters of a literal are at hand, while those of a whole table would have to be decoded
set_option maxRecDepth 4000 in
theorem isBeyond_of_mem : ∀ row ∈ compositionRows.toList, IsBeyond row := by
  unfold compositionRows
  repeat refine List.forall_mem_cons.2 ⟨isBeyond_ofList (by decide +kernel), ?_⟩
  exact List.forall_mem_nil _

theorem second_of_mem_pairsOf {second : Char} {t : Char × Char × Char} (h : t ∈ pairsOf second cs) :
    t.2.1 = second := by
  fun_induction pairsOf second cs with
  | case1 first whole rest ih =>
    obtain rfl | h := List.mem_cons.1 h
    · rfl
    · exact ih h
  | case2 => cases h

theorem beyond_of_mem_compositions {t : Char × Char × Char} (h : t ∈ compositions) :
    128 ≤ t.2.1.toNat ∧ 128 ≤ t.2.2.toNat := by
  obtain ⟨row, hrow, ht⟩ := List.mem_flatMap.1 h
  obtain ⟨second, wholes⟩ := isBeyond_of_mem row hrow
  refine ⟨?_, wholes t ht⟩
  rw [second_of_mem_pairsOf ht]
  exact second

theorem parts?_ascii (h : c.toNat < 128) : parts? c = none := by
  have syllable : Hangul.parts? c.toNat = none := by
    have small : Hangul.isSyllable c.toNat = false := by
      unfold Hangul.isSyllable Hangul.firstSyllable
      simp only [Bool.and_eq_false_iff, decide_eq_false_iff_not]
      omega
    unfold Hangul.parts?
    rw [small]
    rfl
  have none : compositions.find? (fun t => decide (t.2.2 = c)) = none := by
    refine List.find?_eq_none.2 fun t ht => ?_
    have beyond := (beyond_of_mem_compositions ht).2
    rw [decide_eq_true_eq]
    rintro rfl
    exact absurd h (Nat.not_lt.2 beyond)
  unfold parts?
  rw [syllable, none]
  rfl

theorem takenApart_ascii (depth : Nat) (h : c.toNat < 128) : takenApart depth c = [c] := by
  cases depth with
  | zero => rfl
  | succ depth => rw [takenApart, parts?_ascii h]

theorem flatMap_takenApart (h : ∀ c ∈ cs, c.toNat < 128) : cs.flatMap (takenApart maxParts) = cs := by
  induction cs with
  | nil => rfl
  | cons c cs ih =>
    rw [List.flatMap_cons, takenApart_ascii maxParts (h c List.mem_cons_self),
      ih fun d hd => h d (List.mem_cons_of_mem c hd), List.singleton_append]

theorem joined?_ascii (first : Char) (h : c.toNat < 128) : joined? first c = none := by
  have syllable : Hangul.joined? first.toNat c.toNat = none := by
    unfold Hangul.joined? Hangul.firstVowel Hangul.noTail
    rw [if_neg (by omega), if_neg (by omega)]
  have none : compositions.find? (fun t => decide (t.1 = first) && decide (t.2.1 = c)) = none := by
    refine List.find?_eq_none.2 fun t ht => ?_
    have beyond := (beyond_of_mem_compositions ht).1
    rw [Bool.and_eq_true, decide_eq_true_eq, decide_eq_true_eq]
    rintro ⟨-, rfl⟩
    exact absurd h (Nat.not_lt.2 beyond)
  unfold joined?
  rw [syllable, none]
  rfl

theorem isStarter_ascii (h : c.toNat < 128) : isStarter c = true :=
  Percent.of_ascii (p := fun c => isStarter c = true) (by decide +kernel) h

theorem sortMarks_of_starters (h : ∀ c ∈ cs, isStarter c = true) : sortMarks cs = cs := by
  induction cs with
  | nil => rfl
  | cons c cs ih =>
    have rest : cs.foldr insertMark [] = cs := ih fun d hd => h d (List.mem_cons_of_mem c hd)
    unfold sortMarks
    rw [List.foldr_cons, rest]
    cases cs with
    | nil => rfl
    | cons d cs =>
      have starter := h d (by simp)
      rw [insertMark, starter, Bool.not_true, Bool.false_and, if_neg Bool.false_ne_true]

theorem joinAfter_ascii (starter : Char) (h : ∀ c ∈ cs, c.toNat < 128) : joinAfter starter [] cs = starter :: cs := by
  induction cs generalizing starter with
  | nil => rfl
  | cons c cs ih =>
    have ascii := h c List.mem_cons_self
    have rest := ih c fun d hd => h d (List.mem_cons_of_mem c hd)
    simp only [joinAfter, joined?_ascii starter ascii, isStarter_ascii ascii, ite_self, if_true, rest]
    rfl

/-- **An ASCII text is its own composed form.** -/
theorem composed_of_ascii (h : ∀ c ∈ cs, c.toNat < 128) : composed cs = cs := by
  unfold composed
  rw [flatMap_takenApart h, sortMarks_of_starters fun c hc => isStarter_ascii (h c hc)]
  cases cs with
  | nil => rfl
  | cons c cs =>
    rw [join, isStarter_ascii (h c List.mem_cons_self), if_pos rfl,
      joinAfter_ascii c fun d hd => h d (List.mem_cons_of_mem c hd)]

end SearchDomain.Text
