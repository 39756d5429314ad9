import SearchDomain.Proofs.Json.Leftover
import SearchDomain.Proofs.Json.Twins
/-!
# Twins/Strings — the strings that twins have in common

A literal that both texts have begun goes on alike in both: what differs does not stand within it. The digits of an
escape are taken all four at once, so what the text has after the closing quote may be among what is looked at; but
then there is a quote before it that is no digit (`Twins.takeHex`).
-/
namespace SearchDomain.Json

variable {α β : Type} {p q : List Char} {s : Spot} {o : List Bracket} {c : Char} {cs cs' : List Char}

/-- Within a literal digits are taken off twins alike. -/
theorem Twins.takeDigit (h : Twins p q ⟨.string, o⟩ cs cs') :
    Option.Rel (Leaves p q Eq ⟨.string, o⟩) (takeDigit cs) (takeDigit cs') := by
  cases h with
  | nil => exact .none
  | literal free => exact absurd free Spot.not_free_string
  | @char _ c cs cs' rest =>
    simp only [Json.takeDigit]
    cases hc : Text.Hex.value? c with
    | none => exact .none
    | some n =>
      have hne : ∀ d, Text.Hex.value? d = none → c ≠ d := by
        rintro d hd rfl
        cases hc.symm.trans hd
      have hnext : Spot.next ⟨.string, o⟩ c = ⟨.string, o⟩ := by
        simp [Spot.next, hne '"' (by decide), hne '\\' (by decide)]
      exact .some ⟨rfl, hnext ▸ rest⟩

theorem rel_bind {R : α → α → Prop} {S : β → β → Prop} {a a' : Option α} {f f' : α → Option β}
    (first : Option.Rel R a a') (rest : ∀ x x', R x x' → Option.Rel S (f x) (f' x')) :
    Option.Rel S (a >>= f) (a' >>= f') := by
  cases first with
  | none => exact .none
  | some alike => exact rest _ _ alike

theorem Twins.rel_takeHex (h : Twins p q ⟨.string, o⟩ cs cs') :
    Option.Rel (Leaves p q Eq ⟨.string, o⟩) (takeHex cs) (takeHex cs') := by
  refine rel_bind h.takeDigit fun ⟨w, _⟩ ⟨_, _⟩ ⟨hw, h⟩ => ?_
  refine rel_bind h.takeDigit fun ⟨x, _⟩ ⟨_, _⟩ ⟨hx, h⟩ => ?_
  refine rel_bind h.takeDigit fun ⟨y, _⟩ ⟨_, _⟩ ⟨hy, h⟩ => ?_
  refine rel_bind h.takeDigit fun ⟨z, _⟩ ⟨_, _⟩ ⟨hz, h⟩ => ?_
  cases hw
  cases hx
  cases hy
  cases hz
  exact .some ⟨rfl, h⟩

/-- An escape has its digits in both texts, or in neither. -/
theorem Twins.takeHex (h : Twins p q ⟨.string, o⟩ cs cs') :
    (takeHex cs = none ∧ takeHex cs' = none) ∨
      ∃ n rest rest', takeHex cs = some (n, rest) ∧ takeHex cs' = some (n, rest') ∧
        Twins p q ⟨.string, o⟩ rest rest' := by
  have rel := h.rel_takeHex
  generalize Json.takeHex cs = a at rel
  generalize Json.takeHex cs' = a' at rel
  cases rel with
  | none => exact .inl ⟨rfl, rfl⟩
  | @some x x' alike =>
    obtain ⟨n, rest⟩ := x
    obtain ⟨_, rest'⟩ := x'
    obtain ⟨rfl, twins⟩ := alike
    exact .inr ⟨_, _, _, rfl, rfl, twins⟩

theorem Twins.badHex (same : Interchangeable p q) {R : α → α → Prop} (h : Twins p q s cs cs') :
    Agrees R (badHex cs) (badHex cs') := by
  unfold Json.badHex
  rw [← h.byteLength_eq same]
  split
  · exact .error ⟨rfl, h.byteLength_eq same, rfl⟩
  · exact agrees_fail _ rfl

theorem next_string_backslash : Spot.next ⟨.string, o⟩ '\\' = ⟨.escape, o⟩ := rfl

theorem next_escape (c : Char) : Spot.next ⟨.escape, o⟩ c = ⟨.string, o⟩ := rfl

theorem next_string (quote : c ≠ '"') (backslash : c ≠ '\\') : Spot.next ⟨.string, o⟩ c = ⟨.string, o⟩ := by
  simp [Spot.next, quote, backslash]

/-- **A literal that both texts have is passed over alike.** -/
theorem Twins.skipString (same : Interchangeable p q) (h : Twins p q ⟨.string, o⟩ cs cs') :
    Agrees (Twins p q ⟨.done, o⟩) (skipString cs) (skipString cs') := by
  induction hn : cs.length using Nat.strongRecOn generalizing cs cs' with
  | ind n ih =>
    subst hn
    have size := h.byteLength_eq same
    cases h with
    | nil => exact agrees_fail _ rfl
    | literal free => exact absurd free Spot.not_free_string
    | @char _ c cs cs' rest =>
      by_cases quote : c = '"'
      · subst quote
        rw [skipString.eq_def, skipString.eq_def]
        exact .ok rest
      by_cases backslash : c = '\\'
      · subst backslash
        cases rest with
        | nil => exact agrees_fail _ rfl
        | literal free => exact absurd free Spot.not_free_escape
        | @char _ e cs cs' rest =>
          rw [next_string_backslash, next_escape] at rest
          by_cases code : e = 'u'
          · subst code
            rw [skipString_code, skipString_code]
            rcases rest.takeHex with ⟨hx, hx'⟩ | ⟨_, left, left', hx, hx', twins⟩
            · simp only [hx, hx']
              exact rest.badHex same
            · simp only [hx, hx']
              refine ih _ ?_ twins rfl
              have := takeHex_length hx
              simp only [List.length_cons]
              omega
          · rw [skipString.eq_def, skipString.eq_def]
            simp only [Char.reduceEq, if_false, if_true, if_neg code]
            split
            · refine ih _ ?_ rest rfl
              simp only [List.length_cons]
              omega
            · exact agrees_failNext _ (by rw [byteLength_cons, byteLength_cons, rest.byteLength_eq same])
      · rw [next_string quote backslash] at rest
        rw [skipString.eq_def, skipString.eq_def]
        simp only [if_neg quote, if_neg backslash]
        split
        · exact agrees_fail _ size
        · exact ih _ (by simp) rest rfl

theorem Twins.lowHalf (same : Interchangeable p q) (h : Twins p q ⟨.string, o⟩ cs cs') :
    Agrees (Leaves p q Eq ⟨.string, o⟩) (lowHalf cs) (lowHalf cs') := by
  have size := h.byteLength_eq same
  cases h with
  | nil => exact agrees_fail _ rfl
  | literal free => exact absurd free Spot.not_free_string
  | @char _ c cs cs' rest =>
    simp only [Json.lowHalf]
    split
    · rename_i backslash
      subst backslash
      cases rest with
      | nil => exact agrees_fail _ rfl
      | literal free => exact absurd free Spot.not_free_escape
      | @char _ u cs cs' rest =>
        rw [next_string_backslash, next_escape] at rest
        simp only
        split
        · rcases rest.takeHex with ⟨hx, hx'⟩ | ⟨m, left, left', hx, hx', twins⟩
          · simp only [hx, hx']
            exact rest.badHex same
          · simp only [hx, hx']
            split
            · exact .ok ⟨rfl, twins⟩
            · exact agrees_fail _ (twins.byteLength_eq same)
        · exact agrees_failNext _ (by rw [byteLength_cons, byteLength_cons, rest.byteLength_eq same])
    · exact agrees_failNext _ size

theorem Twins.codeChar (same : Interchangeable p q) (h : Twins p q ⟨.string, o⟩ cs cs') :
    Agrees (Leaves p q Eq ⟨.string, o⟩) (codeChar cs) (codeChar cs') := by
  unfold Json.codeChar
  rcases h.takeHex with ⟨hx, hx'⟩ | ⟨n, left, left', hx, hx', twins⟩
  · simp only [hx, hx']
    exact h.badHex same
  · simp only [hx, hx']
    split
    · exact agrees_fail _ (twins.byteLength_eq same)
    split
    · exact (twins.lowHalf same).map fun x x' alike => ⟨by rw [alike.1], alike.2⟩
    · exact .ok ⟨rfl, twins⟩

theorem Agrees.prepend {x x' : Except Fault (List Char × List Char)} (h : Agrees (Leaves p q Eq s) x x') (c : Char) :
    Agrees (Leaves p q Eq s) (prepend c x) (prepend c x') :=
  h.map fun _ _ alike => ⟨congrArg (c :: ·) alike.1, alike.2⟩

/-- **A literal that both texts have is read alike.** -/
theorem Twins.readChars (same : Interchangeable p q) (h : Twins p q ⟨.string, o⟩ cs cs') :
    Agrees (Leaves p q Eq ⟨.done, o⟩) (readChars cs) (readChars cs') := by
  induction hn : cs.length using Nat.strongRecOn generalizing cs cs' with
  | ind n ih =>
    subst hn
    have size := h.byteLength_eq same
    cases h with
    | nil => exact agrees_fail _ rfl
    | literal free => exact absurd free Spot.not_free_string
    | @char _ c cs cs' rest =>
      by_cases quote : c = '"'
      · subst quote
        rw [readChars.eq_def, readChars.eq_def]
        exact .ok ⟨rfl, rest⟩
      by_cases backslash : c = '\\'
      · subst backslash
        cases rest with
        | nil => exact agrees_fail _ rfl
        | literal free => exact absurd free Spot.not_free_escape
        | @char _ e cs cs' rest =>
          rw [next_string_backslash, next_escape] at rest
          by_cases code : e = 'u'
          · subst code
            rw [readChars_codeChar, readChars_codeChar]
            refine (rest.codeChar same).bind fun x x' taken _ alike => ?_
            obtain ⟨x, left⟩ := x
            obtain ⟨_, left'⟩ := x'
            obtain ⟨rfl, twins⟩ := alike
            have := codeChar_length taken
            exact (ih _ (by simp only [List.length_cons]; omega) twins rfl).prepend x
          · cases short : shortEscape? e with
            | some x =>
              rw [readChars_short short, readChars_short short]
              exact (ih _ (by simp only [List.length_cons]; omega) rest rfl).prepend x
            | none =>
              rw [readChars.eq_def, readChars.eq_def]
              simp only [Char.reduceEq, if_false, if_true, short, if_neg code]
              exact agrees_failNext _ (by rw [byteLength_cons, byteLength_cons, rest.byteLength_eq same])
      · rw [next_string quote backslash] at rest
        by_cases control : c.toNat < 0x20
        · rw [readChars.eq_def, readChars.eq_def]
          simp only [if_neg quote, if_neg backslash, if_pos control]
          exact agrees_failNext _ size
        · rw [readChars_plain quote backslash control, readChars_plain quote backslash control]
          exact (ih _ (by simp) rest rfl).prepend c

theorem Twins.readString (same : Interchangeable p q) (h : Twins p q ⟨.string, o⟩ cs cs') :
    Agrees (Leaves p q Eq ⟨.done, o⟩) (readString cs) (readString cs') :=
  (h.readChars same).map fun _ _ alike => ⟨congrArg String.ofList alike.1, alike.2⟩

end SearchDomain.Json
