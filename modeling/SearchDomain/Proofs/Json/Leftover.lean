import SearchDomain.Proofs.Json.Scanning
/-!
# Leftover — what a reader leaves is shorter

No reader puts anything back, so what is left after a success is no longer than what there was, and shorter where
something was taken for certain. The loops that read objects and that pass over values rest on this: it is why their
fuel is enough.
-/
namespace SearchDomain.Json

variable {α β : Type} {c : Char} {cs rest : List Char}

theorem length_skipBlanks_le (cs : List Char) : (skipBlanks cs).length ≤ cs.length :=
  (List.dropWhile_sublist _).length_le

theorem length_dropDigits_le (cs : List Char) : (cs.dropWhile isDigit).length ≤ cs.length :=
  (List.dropWhile_sublist _).length_le

theorem expectWord_length {word : List Char} (h : expectWord word cs = .ok rest) : rest.length ≤ cs.length := by
  induction word generalizing cs with
  | nil =>
    cases h
    exact Nat.le_refl _
  | cons w word ih =>
    cases cs with
    | nil => cases h
    | cons c cs =>
      unfold expectWord at h
      split at h
      · exact Nat.le_succ_of_le (ih h)
      · cases h

theorem skipString_length (h : skipString cs = .ok rest) : rest.length < cs.length := by
  fun_induction skipString cs <;> simp_all [badHex_ne_ok, fail, failNext] <;> omega

theorem dropDigits_length (h : dropDigits cs = .ok rest) : rest.length ≤ cs.length := by
  unfold dropDigits at h
  split at h
  · cases h
    exact length_dropDigits_le cs
  · cases h

theorem skipExponent_length (h : skipExponent cs = .ok rest) : rest.length ≤ cs.length := by
  unfold skipExponent at h
  split at h
  · exact Nat.le_succ_of_le (dropDigits_length h)
  · exact Nat.le_succ_of_le (dropDigits_length h)
  · exact dropDigits_length h

theorem skipScale_length (h : skipScale cs = .ok rest) : rest.length ≤ cs.length := by
  unfold skipScale at h
  split at h
  · cases h
    exact Nat.le_refl _
  split at h
  · exact Nat.le_succ_of_le (skipExponent_length h)
  · cases h
    exact Nat.le_refl _

theorem skipFraction_length (h : skipFraction cs = .ok rest) : rest.length ≤ cs.length := by
  by_cases point : cs.head? = some '.'
  · obtain ⟨cs, rfl⟩ := List.head?_eq_some_iff.1 point
    rw [skipFraction_dot] at h
    split at h
    · exact Nat.le_succ_of_le (Nat.le_trans (skipScale_length h) (length_dropDigits_le cs))
    · cases h
  · rw [skipFraction_scale point] at h
    exact skipScale_length h

theorem skipUnsigned_length (h : skipUnsigned cs = .ok rest) : rest.length < cs.length := by
  unfold skipUnsigned at h
  split at h
  · cases h
  split at h
  · split at h
    · cases h
    · exact Nat.lt_succ_of_le (skipFraction_length h)
  split at h
  · exact Nat.lt_succ_of_le (Nat.le_trans (skipFraction_length h) (length_dropDigits_le _))
  · cases h

theorem skipNumber_length (h : skipNumber cs = .ok rest) : rest.length < cs.length := by
  unfold skipNumber at h
  split at h
  · exact Nat.lt_succ_of_lt (skipUnsigned_length h)
  · exact skipUnsigned_length h

theorem skipScalar_length (h : skipScalar cs = .ok rest) : rest.length < cs.length := by
  unfold skipScalar at h
  split at h
  · exact Nat.lt_succ_of_le (expectWord_length h)
  · exact Nat.lt_succ_of_le (expectWord_length h)
  · exact Nat.lt_succ_of_le (expectWord_length h)
  · exact Nat.lt_succ_of_lt (skipString_length h)
  · split at h
    · exact skipNumber_length h
    · cases h
  · cases h

theorem skipKey_length (h : skipKey cs = .ok rest) : rest.length < cs.length := by
  unfold skipKey at h
  have hle := length_skipBlanks_le cs
  split at h
  · cases h
  · rename_i left hquote
    obtain ⟨left', hstring, h⟩ := bind_eq_ok h
    have hle' := length_skipBlanks_le left'
    have := skipString_length hstring
    rw [hquote, List.length_cons] at hle
    split at h
    · cases h
    · rename_i hcolon
      cases h
      rw [hcolon, List.length_cons] at hle'
      omega
    · cases h
  · cases h

theorem skipItemKey_length {bracket : Bracket} (h : skipItemKey bracket cs = .ok rest) : rest.length ≤ cs.length := by
  cases bracket with
  | list =>
    cases h
    exact Nat.le_refl _
  | object => exact Nat.le_of_lt (skipKey_length h)

theorem skipFrom_length {fuel : Nat} {awaiting : Awaiting} {stack : List Bracket}
    (h : skipFrom fuel awaiting stack cs = .ok rest) : rest.length ≤ cs.length := by
  induction fuel generalizing awaiting stack cs with
  | zero => cases awaiting <;> cases h
  | succ fuel ih =>
    have := length_skipBlanks_le cs
    cases awaiting with
    | value =>
      rw [skipFrom] at h
      split at h
      · rename_i hblanks
        rw [hblanks, List.length_cons] at this
        have := ih h
        omega
      · rename_i hblanks
        rw [hblanks, List.length_cons] at this
        have := ih h
        omega
      · obtain ⟨left, hscalar, h⟩ := bind_eq_ok h
        have := skipScalar_length hscalar
        have := ih h
        omega
    | item opened =>
      cases stack with
      | nil =>
        rw [skipFrom] at h
        cases h
        exact Nat.le_refl _
      | cons bracket stack =>
        rw [skipFrom] at h
        split at h
        · cases h
        rename_i hblanks
        rw [hblanks, List.length_cons] at this
        split at h
        · obtain ⟨left, hkey, h⟩ := bind_eq_ok h
          have := skipItemKey_length hkey
          have := ih h
          omega
        split at h
        · have := ih h
          omega
        split at h
        · obtain ⟨left, hkey, h⟩ := bind_eq_ok h
          have := skipItemKey_length hkey
          have := ih h
          rw [List.length_cons] at *
          omega
        · cases h

theorem takeHex_length {n : Nat} {rest : List Char} (h : takeHex cs = some (n, rest)) : rest.length < cs.length := by
  match cs with
  | _ :: _ :: _ :: _ :: _ =>
    rw [takeHex_cons] at h
    obtain ⟨_, -, he⟩ := Option.map_eq_some_iff.1 h
    cases he
    simp only [List.length_cons]
    omega
  | [] | [_] | [_, _] | [_, _, _] => exact absurd h (by rw [takeHex_eq_none (by simp)]; simp)

theorem lowHalf_length {m : Nat} {rest : List Char} (h : lowHalf cs = .ok (m, rest)) : rest.length < cs.length := by
  unfold lowHalf at h
  repeat' split at h
  all_goals first | exact absurd h badHex_ne_ok | cases h
  rename_i taken
  have := takeHex_length taken
  simp only [List.length_cons]
  omega

theorem codeChar_length {rest : List Char} (h : codeChar cs = .ok (c, rest)) : rest.length < cs.length := by
  unfold codeChar at h
  split at h
  · exact absurd h badHex_ne_ok
  rename_i taken
  have := takeHex_length taken
  split at h
  · cases h
  split at h
  · cases half : lowHalf _ with
    | error fault =>
      rw [half] at h
      cases h
    | ok x =>
      rw [half] at h
      obtain ⟨-, rfl⟩ := Prod.mk.inj (Except.ok.inj h)
      have := lowHalf_length half
      omega
  · cases h
    exact this

theorem prepend_eq_ok {c : Char} {a : Except Fault (List Char × List Char)} {s : List Char}
    (h : prepend c a = .ok (s, rest)) : ∃ s', a = .ok (s', rest) := by
  cases a with
  | error e => cases h
  | ok x =>
    cases h
    exact ⟨x.1, rfl⟩

theorem readChars_length {s : List Char} (h : readChars cs = .ok (s, rest)) : rest.length < cs.length := by
  induction hn : cs.length using Nat.strongRecOn generalizing cs s with
  | ind n ih =>
    subst hn
    cases cs with
    | nil => cases h
    | cons c cs =>
      by_cases quote : c = '"'
      · subst quote
        rw [readChars.eq_def] at h
        cases h
        exact Nat.lt_succ_self _
      by_cases backslash : c = '\\'
      · subst backslash
        cases cs with
        | nil => cases h
        | cons e cs =>
          by_cases code : e = 'u'
          · subst code
            rw [readChars_codeChar] at h
            obtain ⟨⟨c, left⟩, hcode, h⟩ := bind_eq_ok h
            obtain ⟨s', h⟩ := prepend_eq_ok h
            have hleft := codeChar_length hcode
            have := ih _ (by simp only [List.length_cons]; omega) h rfl
            simp only [List.length_cons]
            omega
          · cases short : shortEscape? e with
            | some x =>
              rw [readChars_short short] at h
              obtain ⟨s', h⟩ := prepend_eq_ok h
              have := ih _ (by simp only [List.length_cons]; omega) h rfl
              simp only [List.length_cons]
              omega
            | none =>
              rw [readChars.eq_def] at h
              simp only [Char.reduceEq, if_false, if_true, short, if_neg code] at h
              cases h
      · by_cases control : c.toNat < 0x20
        · rw [readChars.eq_def] at h
          simp only [if_neg quote, if_neg backslash, if_pos control] at h
          cases h
        · rw [readChars_plain quote backslash control] at h
          obtain ⟨s', h⟩ := prepend_eq_ok h
          exact Nat.lt_succ_of_lt (ih _ (Nat.lt_succ_self _) h rfl)

theorem readString_length {s : String} (h : readString cs = .ok (s, rest)) : rest.length < cs.length := by
  unfold readString at h
  cases hchars : readChars cs with
  | error e =>
    rw [hchars] at h
    cases h
  | ok x =>
    rw [hchars] at h
    cases h
    exact readChars_length hchars

theorem text_length {s : String} (h : text cs = .ok (s, rest)) : rest.length < cs.length := by
  unfold text at h
  have hle := length_skipBlanks_le cs
  split at h
  · cases h
  · rename_i hquote
    rw [hquote, List.length_cons] at hle
    have := readString_length h
    omega
  · obtain ⟨fault, he⟩ := @wrongType_error (String × List Char) (skipBlanks cs) "a string"
    cases he.symm.trans h

theorem expectColon_length (h : expectColon cs = .ok rest) : rest.length < cs.length := by
  unfold expectColon at h
  have hle := length_skipBlanks_le cs
  split at h
  · cases h
  · rename_i hcolon
    rw [hcolon, List.length_cons] at hle
    split at h
    · cases h
      omega
    · cases h

theorem nextKey_length {first : Bool} {name left : List Char} (h : nextKey first cs = .ok (some name, left)) :
    name.length < cs.length := by
  unfold nextKey at h
  have hle := length_skipBlanks_le cs
  split at h
  · cases h
  rename_i c tail hblanks
  rw [hblanks, List.length_cons] at hle
  split at h
  · cases h
  split at h
  · split at h
    · cases h
      omega
    · cases h
  split at h
  · split at h
    · cases h
    rename_i hblanks'
    have hle' := length_skipBlanks_le tail
    rw [hblanks', List.length_cons] at hle'
    split at h
    · cases h
      omega
    split at h
    · cases h
    · cases h
  · cases h

end SearchDomain.Json
