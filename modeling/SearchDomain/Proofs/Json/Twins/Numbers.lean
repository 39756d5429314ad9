import SearchDomain.Proofs.Json.Scanning
import SearchDomain.Proofs.Json.Twins
/-!
# Twins/Numbers — words and numbers of twins

A word or a number that has begun before the literal ends before it, since a quote goes on with neither. So both texts
have the same word or number, or fail at the same character.
-/
namespace SearchDomain.Json

variable {p q : List Char} {s : Spot} {o : List Bracket} {cs cs' : List Char}

theorem Twins.expectWord (same : Interchangeable p q) {word : List Char} (inert : ∀ c ∈ word, Spot.Inert c)
    (h : Twins p q ⟨.done, o⟩ cs cs') :
    Agrees (Twins p q ⟨.done, o⟩) (expectWord word cs) (expectWord word cs') := by
  induction word generalizing cs cs' with
  | nil => exact .ok h
  | cons w word ih =>
    have hw : Spot.next ⟨.done, o⟩ w = ⟨.done, o⟩ := Spot.next_inert Spot.between_done (inert w List.mem_cons_self)
    have size := h.byteLength_eq same
    cases h with
    | nil => exact agrees_fail _ rfl
    | @char _ c cs cs' rest =>
      unfold Json.expectWord
      by_cases hc : c = w
      · subst hc
        rw [hw] at rest
        rw [if_pos rfl, if_pos rfl]
        exact ih (fun d hd => inert d (List.mem_cons_of_mem _ hd)) rest
      · rw [if_neg hc, if_neg hc]
        exact agrees_failNext _ size
    | literal =>
      unfold Json.expectWord
      split
      · rename_i hc
        exact absurd (hc ▸ inert w List.mem_cons_self) (by decide)
      · exact agrees_failNext _ size

/-- Digits are taken off twins alike. -/
theorem Twins.digits (h : Twins p q ⟨.done, o⟩ cs cs') :
    (digits cs).1 = (digits cs').1 ∧ Twins p q ⟨.done, o⟩ (digits cs).2 (digits cs').2 := by
  generalize hs : (⟨.done, o⟩ : Spot) = s at h
  induction h with
  | nil s => exact ⟨rfl, .nil s⟩
  | @char s c cs cs' rest ih =>
    subst hs
    unfold Json.digits at ih ⊢
    by_cases hc : isDigit c = true
    · rw [Spot.next_inert Spot.between_done (Spot.inert_digit hc)] at rest ih
      obtain ⟨taken, left⟩ := ih rfl
      simp only [List.takeWhile_cons, List.dropWhile_cons, hc, if_true]
      exact ⟨congrArg (c :: ·) taken, left⟩
    · simp only [List.takeWhile_cons, List.dropWhile_cons, hc, Bool.false_eq_true, if_false]
      exact ⟨trivial, .char rest⟩
  | literal free after => exact ⟨rfl, .literal free after⟩

theorem Twins.floatNumber (same : Interchangeable p q) (h : Twins p q s cs cs') (negative : Bool) (significand : Nat)
    (exponent : Int) :
    Agrees (Leaves p q Eq s) (floatNumber negative significand exponent cs)
      (floatNumber negative significand exponent cs') := by
  unfold Json.floatNumber
  cases Decimal.Binary64.ofParts? significand exponent with
  | some x => exact .ok ⟨rfl, h⟩
  | none => exact agrees_fail _ (h.byteLength_eq same)

theorem Twins.exponentDigits (same : Interchangeable p q) (h : Twins p q ⟨.done, o⟩ cs cs') (negative down : Bool)
    (significand : Nat) (start : Int) :
    Agrees (Leaves p q Eq ⟨.done, o⟩) (exponentDigits negative down significand start cs)
      (exponentDigits negative down significand start cs') := by
  have size := h.byteLength_eq same
  obtain ⟨taken, left⟩ := h.digits
  cases h with
  | nil => exact agrees_fail _ rfl
  | @char _ c cs cs' rest =>
    unfold Json.exponentDigits
    by_cases hc : isDigit c = true
    · simp only [hc, if_true]
      rw [← taken]
      split
      · exact left.floatNumber same ..
      · split
        · refine agrees_fail _ ?_
          rw [byteLength_append, byteLength_append, left.byteLength_eq same]
        · exact .ok ⟨rfl, left⟩
    · simp only [hc, Bool.false_eq_true, if_false]
      exact agrees_failNext _ size
  | literal => exact agrees_failNext _ size

theorem Twins.readExponent (same : Interchangeable p q) (h : Twins p q ⟨.done, o⟩ cs cs') (negative : Bool)
    (significand : Nat) (start : Int) :
    Agrees (Leaves p q Eq ⟨.done, o⟩) (readExponent negative significand start cs)
      (readExponent negative significand start cs') := by
  have unsigned := fun down => h.exponentDigits same negative down significand start
  cases h with
  | nil => exact agrees_fail _ rfl
  | @char _ c cs cs' rest =>
    by_cases plus : c = '+'
    · subst plus
      rw [(readExponent_sign ..).1, (readExponent_sign ..).1]
      exact rest.exponentDigits same negative false significand start
    by_cases minus : c = '-'
    · subst minus
      rw [(readExponent_sign ..).2, (readExponent_sign ..).2]
      exact rest.exponentDigits same negative true significand start
    rw [readExponent_unsigned _ _ _ plus minus, readExponent_unsigned _ _ _ plus minus]
    exact unsigned false
  | literal =>
    rw [readExponent_unsigned _ _ _ (by decide) (by decide), readExponent_unsigned _ _ _ (by decide) (by decide)]
    exact unsigned false

theorem Twins.scale (same : Interchangeable p q) (h : Twins p q ⟨.done, o⟩ cs cs') (negative : Bool)
    (significand : Nat) (exponent : Int) :
    Agrees (Leaves p q Eq ⟨.done, o⟩) (scale negative significand exponent cs)
      (scale negative significand exponent cs') := by
  have float := h.floatNumber same negative significand exponent
  cases h with
  | nil => exact float
  | @char _ c cs cs' rest =>
    unfold Json.scale
    by_cases mark : isExponentMark c = true
    · simp only [mark, if_true]
      rw [Spot.next_inert Spot.between_done (Spot.inert_mark mark)] at rest
      exact rest.readExponent same ..
    · simp only [mark, Bool.false_eq_true, if_false]
      exact float
  | literal => exact float

theorem Twins.readFraction (same : Interchangeable p q) (h : Twins p q ⟨.done, o⟩ cs cs') (negative : Bool)
    (significand skipped : Nat) :
    Agrees (Leaves p q Eq ⟨.done, o⟩) (readFraction negative significand skipped cs)
      (readFraction negative significand skipped cs') := by
  by_cases point : cs.head? = some '.'
  · cases h with
    | nil => cases point
    | literal => cases point
    | char rest =>
      cases point
      obtain ⟨taken, left⟩ := Twins.digits (o := o) rest
      rw [readFraction_dot, readFraction_dot, ← taken]
      split
      · simp only [left.eq_nil_iff]
        exact agrees_failNext _ (left.byteLength_eq same)
      · exact left.scale same ..
  · have hno : ∀ c ∈ cs.head?, c ≠ '.' := fun c hc hp => point (hp ▸ hc)
    rw [readFraction_scale _ _ _ hno, readFraction_scale _ _ _ (h.head?_eq ▸ hno)]
    exact h.scale same ..

theorem Twins.afterWhole (same : Interchangeable p q) (h : Twins p q ⟨.done, o⟩ cs cs') (negative : Bool) (n : Nat)
    (excess : List Char) :
    Agrees (Leaves p q Eq ⟨.done, o⟩) (afterWhole negative n excess cs) (afterWhole negative n excess cs') := by
  unfold Json.afterWhole
  rw [← h.head?_eq]
  split
  · exact h.readFraction same ..
  · unfold wholeNumber
    split
    · exact .ok ⟨rfl, h⟩
    split
    · exact h.floatNumber same ..
    · exact .ok ⟨rfl, h⟩

theorem Twins.readUnsigned (same : Interchangeable p q) (between : s.Between) (h : Twins p q s cs cs')
    (negative : Bool) :
    Agrees (Leaves p q Eq ⟨.done, s.opened⟩) (readUnsigned negative cs) (readUnsigned negative cs') := by
  have size := h.byteLength_eq same
  cases h with
  | nil => exact agrees_fail _ rfl
  | literal => exact agrees_failNext _ size
  | @char _ c cs cs' rest =>
    rw [readUnsigned_cons, readUnsigned_cons, ← rest.head?_eq]
    split
    · exact agrees_failNext _ (rest.byteLength_eq same)
    split
    · rename_i hc
      rw [Spot.next_inert between (Spot.inert_digit hc)] at rest
      have digit : Twins p q ⟨.done, s.opened⟩ (c :: cs) (c :: cs') := by
        refine .char ?_
        rwa [Spot.next_inert Spot.between_done (Spot.inert_digit hc)]
      obtain ⟨taken, left⟩ := digit.digits
      rw [← taken]
      exact left.afterWhole same ..
    · exact agrees_failNext _ size

theorem Twins.readNumber (same : Interchangeable p q) (between : s.Between) (h : Twins p q s cs cs') :
    Agrees (Leaves p q Eq ⟨.done, s.opened⟩) (readNumber cs) (readNumber cs') := by
  by_cases minus : cs.head? = some '-'
  · cases h with
    | nil => cases minus
    | literal => cases minus
    | char rest =>
      cases minus
      rw [Spot.next_inert between (by decide)] at rest
      exact rest.readUnsigned same Spot.between_done true
  · rw [readNumber_unsigned minus, readNumber_unsigned (h.head?_eq ▸ minus)]
    exact h.readUnsigned same between false

theorem Twins.dropDigits (same : Interchangeable p q) (h : Twins p q ⟨.done, o⟩ cs cs') :
    Agrees (Twins p q ⟨.done, o⟩) (dropDigits cs) (dropDigits cs') := by
  unfold Json.dropDigits
  rw [← h.head?_eq]
  split
  · exact .ok h.digits.2
  · exact agrees_failNext _ (h.byteLength_eq same)

theorem Twins.skipExponent (same : Interchangeable p q) (h : Twins p q ⟨.done, o⟩ cs cs') :
    Agrees (Twins p q ⟨.done, o⟩) (skipExponent cs) (skipExponent cs') := by
  by_cases signed : cs.head? = some '+' ∨ cs.head? = some '-'
  · cases h with
    | nil => simp at signed
    | literal => simp at signed
    | char rest =>
      simp only [List.head?_cons, Option.some.injEq] at signed
      rcases signed with rfl | rfl
      · exact Twins.dropDigits (o := o) same rest
      · exact Twins.dropDigits (o := o) same rest
  · rw [skipExponent_unsigned signed, skipExponent_unsigned (h.head?_eq ▸ signed)]
    exact h.dropDigits same

theorem Twins.skipScale (same : Interchangeable p q) (h : Twins p q ⟨.done, o⟩ cs cs') :
    Agrees (Twins p q ⟨.done, o⟩) (skipScale cs) (skipScale cs') := by
  cases h with
  | nil => exact .ok (.nil _)
  | literal free after => exact .ok (.literal free after)
  | @char _ c cs cs' rest =>
    unfold Json.skipScale
    by_cases mark : isExponentMark c = true
    · simp only [mark, if_true]
      rw [Spot.next_inert Spot.between_done (Spot.inert_mark mark)] at rest
      exact rest.skipExponent same
    · simp only [mark, Bool.false_eq_true, if_false]
      exact .ok (.char rest)

theorem Twins.skipFraction (same : Interchangeable p q) (h : Twins p q ⟨.done, o⟩ cs cs') :
    Agrees (Twins p q ⟨.done, o⟩) (skipFraction cs) (skipFraction cs') := by
  by_cases point : cs.head? = some '.'
  · cases h with
    | nil => cases point
    | literal => cases point
    | char rest =>
      cases point
      rw [skipFraction_dot, skipFraction_dot, ← rest.head?_eq]
      split
      · exact Twins.skipScale (o := o) same rest.digits.2
      · exact agrees_failNext _ (rest.byteLength_eq same)
  · rw [skipFraction_scale point, skipFraction_scale (h.head?_eq ▸ point)]
    exact h.skipScale same

theorem Twins.skipUnsigned (same : Interchangeable p q) (between : s.Between) (h : Twins p q s cs cs') :
    Agrees (Twins p q ⟨.done, s.opened⟩) (skipUnsigned cs) (skipUnsigned cs') := by
  have size := h.byteLength_eq same
  cases h with
  | nil => exact agrees_failNext _ rfl
  | literal => exact agrees_failNext _ size
  | @char _ c cs cs' rest =>
    unfold Json.skipUnsigned
    by_cases zero : c = '0'
    · subst zero
      rw [Spot.next_inert between (by decide)] at rest
      simp only [if_true, rest.head?_eq]
      split
      · exact agrees_failNext _ (rest.byteLength_eq same)
      · exact rest.skipFraction same
    · simp only [if_neg zero]
      split
      · rename_i hc
        rw [Spot.next_inert between (Spot.inert_digit hc)] at rest
        exact Twins.skipFraction same rest.digits.2
      · exact agrees_failNext _ size

theorem Twins.skipNumber (same : Interchangeable p q) (between : s.Between) (h : Twins p q s cs cs') :
    Agrees (Twins p q ⟨.done, s.opened⟩) (skipNumber cs) (skipNumber cs') := by
  by_cases minus : cs.head? = some '-'
  · cases h with
    | nil => cases minus
    | literal => cases minus
    | char rest =>
      cases minus
      rw [Spot.next_inert between (by decide)] at rest
      exact Twins.skipUnsigned (s := ⟨.done, s.opened⟩) same Spot.between_done rest
  · rw [skipNumber_unsigned minus, skipNumber_unsigned (h.head?_eq ▸ minus)]
    exact h.skipUnsigned same between

end SearchDomain.Json
