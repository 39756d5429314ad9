import SearchDomain.Proofs.Json.Passing
import SearchDomain.Proofs.Json.Twins.Numbers
import SearchDomain.Proofs.Json.Twins.Strings
/-!
# Twins/Tokens — what stands between the literals of twins

The readers of lists and objects look at the next character that is no blank. Where that is the quote of the literal in
both texts, either the literal is taken as a text or passed over, or it is as much out of place in one text as in the
other; and no key is the literal. A value that nobody asked for is passed over in rounds, of which the two texts may
take different numbers (`Twins.skipFrom`).
-/
namespace SearchDomain.Json

variable {α : Type} {p q : List Char} {s : Spot} {o : List Bracket} {c : Char} {cs cs' : List Char}

/-! ## Values -/

theorem Plain.spells {cs : List Char} (h : Plain cs) : Spells cs cs := by
  induction cs with
  | nil => exact .nil
  | cons c cs ih =>
    obtain ⟨quote, backslash, printable⟩ := h c List.mem_cons_self
    exact .cons (.plain quote backslash (Nat.not_lt.2 printable)) (ih fun d hd => h d (List.mem_cons_of_mem _ hd))

theorem Plain.readString {cs : List Char} (h : Plain cs) (rest : List Char) :
    readString (cs ++ '"' :: rest) = .ok (String.ofList cs, rest) :=
  Spells.readString (s := String.ofList cs) (String.toList_ofList ▸ h.spells) rest

theorem Twins.wrongType (same : Interchangeable p q) {R : α → α → Prop} (between : s.Between) (expected : String)
    (rest : Twins p q (s.next c) cs cs') :
    Agrees R (wrongType expected (c :: cs)) (wrongType expected (c :: cs')) := by
  have word : ∀ {found : Found} {word : List Char} {t t' : List Char}, (∀ c ∈ word, Spot.Inert c) →
      Twins p q ⟨.done, s.opened⟩ t t' →
      Agrees R (Json.expectWord word t >>= fun rest => fail (.wrongType found expected) rest)
        (Json.expectWord word t' >>= fun rest => fail (.wrongType found expected) rest) := fun inert twins =>
    (twins.expectWord same inert).bind fun _ _ _ _ left => agrees_fail _ (left.byteLength_eq same)
  have whole : Twins p q s (c :: cs) (c :: cs') := .char rest
  have size := whole.byteLength_eq same
  by_cases hn : c = 'n'
  · subst hn
    rw [Spot.next_inert between (by decide)] at rest
    exact word (Spot.inert_word (by decide)) rest
  by_cases ht : c = 't'
  · subst ht
    rw [Spot.next_inert between (by decide)] at rest
    exact word (Spot.inert_word (by decide)) rest
  by_cases hf : c = 'f'
  · subst hf
    rw [Spot.next_inert between (by decide)] at rest
    exact word (Spot.inert_word (by decide)) rest
  by_cases hq : c = '"'
  · subst hq
    rw [Spot.next_quote between] at rest
    refine (rest.readString same).bind fun ⟨x, _⟩ ⟨_, _⟩ _ _ ⟨hx, left⟩ => ?_
    cases hx
    exact agrees_fail _ (left.byteLength_eq same)
  by_cases hl : c = '['
  · subst hl
    exact agrees_fail _ size
  by_cases ho : c = '{'
  · subst ho
    exact agrees_fail _ size
  rw [wrongType_other ⟨hn, ht, hf, hq, hl, ho⟩, wrongType_other ⟨hn, ht, hf, hq, hl, ho⟩]
  split
  · refine (whole.readNumber same between).bind fun ⟨n, _⟩ ⟨_, _⟩ _ _ ⟨hn, left⟩ => ?_
    cases hn
    exact agrees_fail _ (left.byteLength_eq same)
  · exact agrees_failNext _ size

/-- Texts that are read here need not be the same, since one may be the literal. -/
theorem Twins.text (same : Interchangeable p q) (between : s.Between) (h : Twins p q s cs cs') :
    Agrees (Leaves p q (fun _ _ => True) ⟨.done, s.opened⟩) (text cs) (text cs') := by
  have h := h.skipBlanks between
  unfold Json.text
  generalize Json.skipBlanks cs = ds at h
  generalize Json.skipBlanks cs' = ds' at h
  cases h with
  | nil => exact agrees_failNext _ rfl
  | literal free after =>
    simp only [same.left.readString, same.right.readString]
    exact .ok ⟨trivial, .refl _ _⟩
  | @char _ c cs cs' rest =>
    by_cases quote : c = '"'
    · subst quote
      rw [Spot.next_quote between] at rest
      exact (rest.readString same).imp fun _ _ alike => ⟨trivial, alike.2⟩
    · simp only [List.cons.injEq, quote, false_and, imp_self, implies_true]
      exact rest.wrongType same between _

/-! ## Lists and objects -/

/-- Within a bracket that has just been opened, or after one of its values. -/
def Spot.within (first : Bool) (bracket : Bracket) (o : List Bracket) : Spot :=
  ⟨if first then Spot.separated (bracket :: o) else .done, bracket :: o⟩

theorem Spot.between_within (first : Bool) (bracket : Bracket) : (Spot.within first bracket o).Between := by
  cases first
  · exact between_done
  · exact between_separated _

/-- Neither text has more before the closing bracket, or both have, and it begins at a spot. -/
inductive Onward (p q : List Char) (closing more : Spot) :
    Option (List Char) × List Char → Option (List Char) × List Char → Prop
  | closed {cs cs' : List Char} (twins : Twins p q closing cs cs') : Onward p q closing more (none, cs) (none, cs')
  | more {cs cs' : List Char} (left left' : List Char) (twins : Twins p q more cs cs') :
      Onward p q closing more (some cs, left) (some cs', left')

theorem Twins.nextItem (same : Interchangeable p q) {first : Bool} (h : Twins p q (.within first .list o) cs cs') :
    Agrees (Onward p q (.within first .list o) ⟨.value, .list :: o⟩) (nextItem first cs) (nextItem first cs') := by
  have h := h.skipBlanks (Spot.between_within first .list)
  have size := h.byteLength_eq same
  unfold Json.nextItem
  generalize Json.skipBlanks cs = ds at h size
  generalize Json.skipBlanks cs' = ds' at h size
  cases h with
  | nil => exact agrees_failNext _ rfl
  | literal free after =>
    cases first with
    | true => exact .ok (.more _ _ (.literal free after))
    | false => exact agrees_failNext _ size
  | @char _ c cs cs' rest =>
    simp only
    split
    · exact .ok (.closed (.char rest))
    cases first with
    | true => exact .ok (.more _ _ (.char rest))
    | false =>
      simp only [Bool.false_eq_true, if_false]
      split
      · rename_i comma
        subst comma
        rw [Spot.next_comma (Spot.between_within false .list)] at rest
        have rest := rest.skipBlanks (Spot.between_separated _)
        generalize Json.skipBlanks cs = ds at rest
        generalize Json.skipBlanks cs' = ds' at rest
        have size := rest.byteLength_eq same
        cases rest with
        | nil => exact agrees_failNext _ rfl
        | literal free after => exact .ok (.more _ _ (.literal free after))
        | char rest =>
          simp only
          split
          · exact agrees_failNext _ size
          · exact .ok (.more _ _ (.char rest))
      · exact agrees_failNext _ size

/-- Both texts close a bracket, or both fail to in the same way. -/
inductive Closing (p q : List Char) (closed : Spot) : Option Fault × List Char → Option Fault × List Char → Prop
  | closed {cs cs' : List Char} (twins : Twins p q closed cs cs') : Closing p q closed (none, cs) (none, cs')
  | fault {f f' : Fault} {cs cs' : List Char} (alike : f.Alike f') (size : byteLength cs = byteLength cs') :
      Closing p q closed (some f, cs) (some f', cs')

theorem Closing.size (same : Interchangeable p q) {x x' : Option Fault × List Char} (h : Closing p q s x x') :
    byteLength x.2 = byteLength x'.2 := by
  cases h with
  | closed twins => exact twins.byteLength_eq same
  | fault _ size => exact size

theorem Twins.closeList (same : Interchangeable p q) (between : s.Between) (h : Twins p q s cs cs') :
    Closing p q ⟨.done, s.opened.tail⟩ (closeList cs) (closeList cs') := by
  have h := h.skipBlanks between
  have size := h.byteLength_eq same
  unfold Json.closeList
  generalize Json.skipBlanks cs = ds at h size
  generalize Json.skipBlanks cs' = ds' at h size
  cases h with
  | nil => exact .fault ⟨rfl, rfl, rfl⟩ rfl
  | literal free after => exact .fault ⟨rfl, size, rfl⟩ size
  | @char _ c cs cs' rest =>
    simp only
    split
    · rename_i bracket
      subst bracket
      exact .closed (Spot.next_close between .list ▸ rest)
    split
    · rename_i comma
      subst comma
      rw [Spot.next_comma between] at rest
      have rest := rest.skipBlanks (Spot.between_separated _)
      have size := rest.byteLength_eq same
      generalize Json.skipBlanks cs = ds at rest size
      generalize Json.skipBlanks cs' = ds' at rest size
      cases rest with
      | nil => exact .fault ⟨rfl, rfl, rfl⟩ rfl
      | literal free after => exact .fault ⟨rfl, size, rfl⟩ size
      | char rest => exact .fault ⟨rfl, size, rfl⟩ size
    · exact .fault ⟨rfl, size, rfl⟩ size

theorem Twins.closeObject (same : Interchangeable p q) (between : s.Between) (h : Twins p q s cs cs') :
    Closing p q ⟨.done, s.opened.tail⟩ (closeObject cs) (closeObject cs') := by
  have h := h.skipBlanks between
  have size := h.byteLength_eq same
  unfold Json.closeObject
  generalize Json.skipBlanks cs = ds at h size
  generalize Json.skipBlanks cs' = ds' at h size
  cases h with
  | nil => exact .fault ⟨rfl, rfl, rfl⟩ rfl
  | literal free after => exact .fault ⟨rfl, size, rfl⟩ size
  | @char _ c cs cs' rest =>
    simp only
    split
    · rename_i bracket
      subst bracket
      exact .closed (Spot.next_close between .object ▸ rest)
    · exact .fault ⟨rfl, size, rfl⟩ size

theorem Twins.nextKey (same : Interchangeable p q) {first : Bool} (h : Twins p q (.within first .object o) cs cs') :
    Agrees (Onward p q (.within first .object o) ⟨.string, .object :: o⟩) (nextKey first cs) (nextKey first cs') := by
  have h := h.skipBlanks (Spot.between_within first .object)
  have size := h.byteLength_eq same
  unfold Json.nextKey
  generalize Json.skipBlanks cs = ds at h size
  generalize Json.skipBlanks cs' = ds' at h size
  cases h with
  | nil => exact agrees_failNext _ rfl
  | literal free after =>
    cases first with
    | true => exact absurd free Spot.not_free_key
    | false => exact agrees_failNext _ size
  | @char _ c cs cs' rest =>
    simp only
    split
    · exact .ok (.closed (.char rest))
    cases first with
    | true =>
      simp only [if_true]
      split
      · rename_i quote
        subst quote
        exact .ok (.more _ _ rest)
      · exact agrees_failNext _ size
    | false =>
      simp only [Bool.false_eq_true, if_false]
      split
      · rename_i comma
        subst comma
        rw [Spot.next_comma (Spot.between_within false .object)] at rest
        have rest := rest.skipBlanks (Spot.between_separated _)
        have size := rest.byteLength_eq same
        generalize Json.skipBlanks cs = ds at rest size
        generalize Json.skipBlanks cs' = ds' at rest size
        cases rest with
        | nil => exact agrees_failNext _ rfl
        | literal free after => exact absurd free Spot.not_free_key
        | char rest =>
          simp only
          split
          · rename_i quote
            subst quote
            exact .ok (.more _ _ rest)
          split
          · exact agrees_failNext _ size
          · exact agrees_failNext _ size
      · exact agrees_failNext _ size

theorem Twins.expectColon (same : Interchangeable p q) (between : s.Between) (h : Twins p q s cs cs') :
    Agrees (Twins p q ⟨.value, s.opened⟩) (expectColon cs) (expectColon cs') := by
  have h := h.skipBlanks between
  have size := h.byteLength_eq same
  unfold Json.expectColon
  generalize Json.skipBlanks cs = ds at h size
  generalize Json.skipBlanks cs' = ds' at h size
  cases h with
  | nil => exact agrees_failNext _ rfl
  | literal free after => exact agrees_failNext _ size
  | @char _ c cs cs' rest =>
    simp only
    split
    · rename_i colon
      subst colon
      exact .ok (Spot.next_colon between ▸ rest)
    · exact agrees_failNext _ size

/-! ## What nobody asked for -/

theorem Twins.skipKey (same : Interchangeable p q) (between : s.Between) (key : ¬ s.Free) (h : Twins p q s cs cs') :
    Agrees (Twins p q ⟨.value, s.opened⟩) (skipKey cs) (skipKey cs') := by
  have h := h.skipBlanks between
  have size := h.byteLength_eq same
  unfold Json.skipKey
  generalize Json.skipBlanks cs = ds at h size
  generalize Json.skipBlanks cs' = ds' at h size
  cases h with
  | nil => exact agrees_failNext _ rfl
  | literal free => exact absurd free key
  | @char _ c cs cs' rest =>
    by_cases quote : c = '"'
    · subst quote
      rw [Spot.next_quote between] at rest
      refine (rest.skipString same).bind fun left left' _ _ twins => ?_
      have twins := twins.skipBlanks Spot.between_done
      have size := twins.byteLength_eq same
      generalize Json.skipBlanks left = ds at twins size
      generalize Json.skipBlanks left' = ds' at twins size
      cases twins with
      | nil => exact agrees_failNext _ rfl
      | literal => exact agrees_failNext _ size
      | @char _ c cs cs' rest =>
        by_cases colon : c = ':'
        · subst colon
          exact .ok rest
        · simp only [List.cons.injEq, colon, false_and, imp_self, implies_true]
          exact agrees_failNext _ size
    · simp only [List.cons.injEq, quote, false_and, imp_self, implies_true]
      exact agrees_failNext _ size

theorem Twins.skipItemKey (same : Interchangeable p q) {bracket : Bracket}
    (h : Twins p q ⟨Spot.separated (bracket :: o), bracket :: o⟩ cs cs') :
    Agrees (Twins p q ⟨.value, bracket :: o⟩) (skipItemKey bracket cs) (skipItemKey bracket cs') := by
  cases bracket with
  | list => exact .ok h
  | object => exact h.skipKey same Spot.between_key Spot.not_free_key

theorem Plain.skipString {cs : List Char} (h : Plain cs) (rest : List Char) :
    skipString (cs ++ '"' :: rest) = .ok rest := h.spells.skipString rest

theorem Twins.skipScalar (same : Interchangeable p q) (between : s.Between) (h : Twins p q s cs cs') :
    Agrees (Twins p q ⟨.done, s.opened⟩) (skipScalar cs) (skipScalar cs') := by
  have number := h.skipNumber same between
  have size := h.byteLength_eq same
  cases h with
  | nil => exact agrees_failNext _ rfl
  | literal free after =>
    simp only [Json.skipScalar, same.left.skipString, same.right.skipString]
    exact .ok (.refl _ _)
  | @char _ c cs cs' rest =>
    by_cases hn : c = 'n'
    · subst hn
      rw [Spot.next_inert between (by decide)] at rest
      exact rest.expectWord same (Spot.inert_word (by decide))
    by_cases ht : c = 't'
    · subst ht
      rw [Spot.next_inert between (by decide)] at rest
      exact rest.expectWord same (Spot.inert_word (by decide))
    by_cases hf : c = 'f'
    · subst hf
      rw [Spot.next_inert between (by decide)] at rest
      exact rest.expectWord same (Spot.inert_word (by decide))
    by_cases hq : c = '"'
    · subst hq
      rw [Spot.next_quote between] at rest
      exact rest.skipString same
    rw [skipScalar_other ⟨hn, ht, hf, hq⟩, skipScalar_other ⟨hn, ht, hf, hq⟩]
    split
    · exact number
    · exact agrees_failNext _ size

/-- Where a value stands that is passed over, with these brackets of it open. -/
def Awaiting.spot (o : List Bracket) : Awaiting → List Bracket → Spot
  | .value, stack => ⟨.value, stack ++ o⟩
  | .item _, [] => ⟨.done, o⟩
  | .item opened, bracket :: stack => .within opened bracket (stack ++ o)

/-- More rounds than are left. -/
def Awaiting.rounds : Awaiting → List Char → Nat
  | .value, cs => 2 * cs.length + 1
  | .item true, cs => 2 * cs.length + 2
  | .item false, cs => 2 * cs.length

/-- What is passed over in so many rounds is passed over alike. -/
def PassedAlike (p q : List Char) (o : List Bracket) (fuel fuel' : Nat) : Prop :=
  ∀ (awaiting : Awaiting) (stack : List Bracket) (cs cs' : List Char), Twins p q (awaiting.spot o stack) cs cs' →
    awaiting.rounds cs < fuel → awaiting.rounds cs' < fuel' →
      Agrees (Twins p q ⟨.done, o⟩) (skipFrom fuel awaiting stack cs) (skipFrom fuel' awaiting stack cs')

section
variable {fuel fuel' : Nat} {stack : List Bracket} {bracket : Bracket}

/-- After a value the innermost bracket goes on. -/
theorem Twins.spot_item (h : Twins p q ⟨.done, stack ++ o⟩ cs cs') :
    Twins p q ((Awaiting.item false).spot o stack) cs cs' := by
  cases stack <;> exact h

theorem Twins.skipFrom_value (same : Interchangeable p q) (alike : PassedAlike p q o fuel fuel')
    (h : Twins p q ⟨.value, stack ++ o⟩ cs cs') (enough : Awaiting.value.rounds cs < fuel + 1)
    (enough' : Awaiting.value.rounds cs' < fuel' + 1) :
    Agrees (Twins p q ⟨.done, o⟩) (skipFrom (fuel + 1) .value stack cs) (skipFrom (fuel' + 1) .value stack cs') := by
  have hle := length_skipBlanks_le cs
  have hle' := length_skipBlanks_le cs'
  simp only [Awaiting.rounds] at enough enough'
  have h := h.skipBlanks Spot.between_value
  rw [Json.skipFrom, Json.skipFrom]
  generalize Json.skipBlanks cs = ds at h hle
  generalize Json.skipBlanks cs' = ds' at h hle'
  have scalar : Agrees (Twins p q ⟨.done, o⟩)
      (Json.skipScalar ds >>= fun rest => Json.skipFrom fuel (.item false) stack rest)
      (Json.skipScalar ds' >>= fun rest => Json.skipFrom fuel' (.item false) stack rest) := by
    refine (h.skipScalar same Spot.between_value).bind fun left left' taken taken' twins => ?_
    have := skipScalar_length taken
    have := skipScalar_length taken'
    exact alike _ _ _ _ twins.spot_item (by simp only [Awaiting.rounds]; omega) (by simp only [Awaiting.rounds]; omega)
  cases h with
  | nil => exact scalar
  | literal => exact scalar
  | @char _ c ds ds' rest =>
    simp only [List.length_cons] at hle hle'
    by_cases list : c = '['
    · subst list
      exact alike _ _ _ _ rest (by simp only [Awaiting.rounds]; omega) (by simp only [Awaiting.rounds]; omega)
    by_cases object : c = '{'
    · subst object
      exact alike _ _ _ _ rest (by simp only [Awaiting.rounds]; omega) (by simp only [Awaiting.rounds]; omega)
    simpa [list, object] using scalar

/-- Past a comma, or past the bracket that opens, comes the next item. -/
theorem Twins.skipFrom_turn (same : Interchangeable p q) (alike : PassedAlike p q o fuel fuel')
    (h : Twins p q ⟨Spot.separated (bracket :: (stack ++ o)), bracket :: (stack ++ o)⟩ cs cs')
    (enough : 2 * cs.length + 1 < fuel) (enough' : 2 * cs'.length + 1 < fuel') :
    Agrees (Twins p q ⟨.done, o⟩)
      (Json.skipItemKey bracket cs >>= fun rest => Json.skipFrom fuel .value (bracket :: stack) rest)
      (Json.skipItemKey bracket cs' >>= fun rest => Json.skipFrom fuel' .value (bracket :: stack) rest) := by
  refine (h.skipItemKey same).bind fun left left' taken taken' twins => ?_
  have := skipItemKey_length taken
  have := skipItemKey_length taken'
  exact alike _ _ _ _ twins (by simp only [Awaiting.rounds]; omega) (by simp only [Awaiting.rounds]; omega)

theorem Twins.skipFrom_item (same : Interchangeable p q) (alike : PassedAlike p q o fuel fuel') {opened : Bool}
    (h : Twins p q (.within opened bracket (stack ++ o)) cs cs') (enough : (Awaiting.item opened).rounds cs < fuel + 1)
    (enough' : (Awaiting.item opened).rounds cs' < fuel' + 1) :
    Agrees (Twins p q ⟨.done, o⟩) (skipFrom (fuel + 1) (.item opened) (bracket :: stack) cs)
      (skipFrom (fuel' + 1) (.item opened) (bracket :: stack) cs') := by
  have hle := length_skipBlanks_le cs
  have hle' := length_skipBlanks_le cs'
  have between := Spot.between_within (o := stack ++ o) opened bracket
  have h := h.skipBlanks between
  have size := h.byteLength_eq same
  rw [Json.skipFrom, Json.skipFrom]
  generalize Json.skipBlanks cs = ds at h hle size
  generalize Json.skipBlanks cs' = ds' at h hle' size
  cases h with
  | nil => exact agrees_failNext _ rfl
  | literal free after =>
    have comma : ¬ ('"' = ',' ∧ (!opened) = true) := by simp
    have close : '"' ≠ bracket.close := by cases bracket <;> decide
    simp only [if_neg comma, if_neg close]
    cases opened with
    | true =>
      simp only [Awaiting.rounds] at enough enough'
      exact skipFrom_turn same alike (.literal free after) (by omega) (by omega)
    | false => exact agrees_failNext _ size
  | @char _ c ds ds' rest =>
    simp only [List.length_cons] at hle hle'
    simp only
    split
    · rename_i comma
      obtain ⟨rfl, hopened⟩ := comma
      rw [Spot.next_comma between] at rest
      cases opened with
      | true => cases hopened
      | false =>
        simp only [Awaiting.rounds] at enough enough'
        exact rest.skipFrom_turn same alike (by omega) (by omega)
    split
    · rename_i close
      subst close
      rw [Spot.next_close between] at rest
      have : 2 * cs.length ≤ Awaiting.rounds (.item opened) cs := by cases opened <;> simp [Awaiting.rounds]
      have : 2 * cs'.length ≤ Awaiting.rounds (.item opened) cs' := by cases opened <;> simp [Awaiting.rounds]
      have rest : Twins p q ⟨.done, stack ++ o⟩ ds ds' := rest
      exact alike _ _ _ _ rest.spot_item (by simp only [Awaiting.rounds]; omega) (by simp only [Awaiting.rounds]; omega)
    cases opened with
    | true =>
      simp only [Awaiting.rounds] at enough enough'
      exact skipFrom_turn same alike (.char rest) (by simp only [List.length_cons]; omega)
        (by simp only [List.length_cons]; omega)
    | false => exact agrees_failNext _ size

end

/-- **Twins are passed over alike**, in any number of rounds that is enough. -/
theorem passedAlike (same : Interchangeable p q) (fuel fuel' : Nat) : PassedAlike p q o fuel fuel' := by
  induction fuel generalizing fuel' with
  | zero => exact fun _ _ _ _ _ enough => absurd enough (Nat.not_lt_zero _)
  | succ fuel ih =>
    intro awaiting stack cs cs' h enough enough'
    obtain ⟨fuel', rfl⟩ := Nat.exists_eq_succ_of_ne_zero (Nat.ne_zero_of_lt enough')
    cases awaiting with
    | value => exact h.skipFrom_value same (ih fuel') enough enough'
    | item opened =>
      cases stack with
      | nil =>
        rw [Json.skipFrom, Json.skipFrom]
        exact .ok h
      | cons bracket stack => exact h.skipFrom_item same (ih fuel') enough enough'

theorem Twins.skipValue (same : Interchangeable p q) (h : Twins p q ⟨.value, o⟩ cs cs') :
    Agrees (Twins p q ⟨.done, o⟩) (skipValue cs) (skipValue cs') :=
  passedAlike same _ _ .value [] cs cs' h (Nat.lt_succ_self _) (Nat.lt_succ_self _)

end SearchDomain.Json
