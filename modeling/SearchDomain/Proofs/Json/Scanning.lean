import SearchDomain.Json.Skip
import SearchDomain.Proofs.Json.Values
/-!
# Scanning — numbers, strings and scalars in steps

The readers of the leaves look at several characters at once. Here each is told as a reader of the next character and
readers of what follows: the parts of a number, the digits of an escape (`takeHex`), a character that is spelled by its
code (`codeChar`).
-/
namespace SearchDomain.Json

variable {α β : Type} {c : Char} {cs : List Char}

/-! ## Numbers -/

theorem readExponent_sign (negative : Bool) (significand : Nat) (start : Int) (cs : List Char) :
    readExponent negative significand start ('+' :: cs) = exponentDigits negative false significand start cs ∧
      readExponent negative significand start ('-' :: cs) = exponentDigits negative true significand start cs :=
  by cases cs <;> exact ⟨rfl, rfl⟩

theorem readFraction_dot (negative : Bool) (significand skipped : Nat) (cs : List Char) :
    readFraction negative significand skipped ('.' :: cs) =
      if (digits cs).1 = [] then failNext (if (digits cs).2 = [] then .eofInValue else .badNumber) (digits cs).2
      else scale negative (appendDigits maxWord significand (digits cs).1).1
        (skipped - ((digits cs).1.length - (appendDigits maxWord significand (digits cs).1).2.length : Nat))
        (digits cs).2 := by
  obtain ⟨ds, rest, h⟩ : ∃ ds rest, digits cs = (ds, rest) := ⟨_, _, rfl⟩
  unfold readFraction
  simp only [h]
  cases ds <;> cases rest <;> rfl

theorem readUnsigned_cons (negative : Bool) (c : Char) (cs : List Char) :
    readUnsigned negative (c :: cs) =
      if c = '0' ∧ cs.head?.any isDigit then failNext .badNumber cs
      else if isDigit c then
        let (n, excess) := appendDigits maxWord 0 (digits (c :: cs)).1
        afterWhole negative n excess (digits (c :: cs)).2
      else failNext .badNumber (c :: cs) := by
  obtain ⟨ds, rest, h⟩ : ∃ ds rest, digits (c :: cs) = (ds, rest) := ⟨_, _, rfl⟩
  simp only [readUnsigned, afterWhole, h]
  cases rest with
  | nil => simp
  | cons m rest => simp [or_assoc]

/-- The digits of an exponent that is passed over. -/
def dropDigits (cs : List Char) : Except Fault (List Char) :=
  if cs.head?.any isDigit then .ok (cs.dropWhile isDigit) else failNext .badNumber cs

theorem skipExponent_unsigned (h : ¬ (cs.head? = some '+' ∨ cs.head? = some '-')) :
    skipExponent cs = dropDigits cs := by
  unfold skipExponent
  split
  · exact absurd (.inl rfl) h
  · exact absurd (.inr rfl) h
  · rfl

/-- What is passed over after the last digit before an exponent. -/
def skipScale : List Char → Except Fault (List Char)
  | [] => .ok []
  | c :: cs => if isExponentMark c then skipExponent cs else .ok (c :: cs)

theorem skipFraction_scale (h : cs.head? ≠ some '.') : skipFraction cs = skipScale cs := by
  unfold skipFraction
  split
  · exact absurd rfl h
  · rfl
  · rfl

theorem skipFraction_dot (cs : List Char) :
    skipFraction ('.' :: cs) =
      if cs.head?.any isDigit then skipScale (cs.dropWhile isDigit) else failNext .badNumber cs := by
  unfold skipFraction
  simp only
  cases cs.dropWhile isDigit <;> rfl

theorem skipNumber_unsigned (h : cs.head? ≠ some '-') : skipNumber cs = skipUnsigned cs := by
  unfold skipNumber
  split
  · exact absurd rfl h
  · rfl

/-! ## Strings -/

/-- One hexadecimal digit off the front. -/
def takeDigit : List Char → Option (Nat × List Char)
  | [] => none
  | c :: cs => (Text.Hex.value? c).map (·, cs)

/-- The four digits of an escape off the front. -/
def takeHex (cs : List Char) : Option (Nat × List Char) := do
  let (w, cs) ← takeDigit cs
  let (x, cs) ← takeDigit cs
  let (y, cs) ← takeDigit cs
  let (z, cs) ← takeDigit cs
  return (((w * 16 + x) * 16 + y) * 16 + z, cs)

/-- The four digits of an escape stand in a row. -/
theorem takeHex_cons (h₁ h₂ h₃ h₄ : Char) (cs : List Char) :
    takeHex (h₁ :: h₂ :: h₃ :: h₄ :: cs) = (hexValue? h₁ h₂ h₃ h₄).map (·, cs) := by
  cases v₁ : Text.Hex.value? h₁ <;> cases v₂ : Text.Hex.value? h₂ <;> cases v₃ : Text.Hex.value? h₃ <;>
    cases v₄ : Text.Hex.value? h₄ <;> simp [takeHex, takeDigit, hexValue?, v₁, v₂, v₃, v₄]

theorem takeHex_eq_none (h : ∀ h₁ h₂ h₃ h₄ rest, cs ≠ h₁ :: h₂ :: h₃ :: h₄ :: rest) : takeHex cs = none := by
  simp only [takeHex]
  match cs, h with
  | [], _ => rfl
  | [a], _ => cases ha : Text.Hex.value? a <;> simp [takeDigit, ha]
  | [a, b], _ => cases ha : Text.Hex.value? a <;> cases hb : Text.Hex.value? b <;> simp [takeDigit, ha, hb]
  | [a, b, c], _ =>
    cases ha : Text.Hex.value? a <;> cases hb : Text.Hex.value? b <;> cases hc : Text.Hex.value? c <;>
      simp [takeDigit, ha, hb, hc]
  | _ :: _ :: _ :: _ :: _, h => exact absurd rfl (h _ _ _ _ _)

theorem skipString_code (cs : List Char) :
    skipString ('\\' :: 'u' :: cs) =
      match takeHex cs with
      | some (_, rest) => skipString rest
      | none => badHex cs := by
  have hu : shortEscape? 'u' = none := by decide
  rw [skipString.eq_def]
  simp only [Char.reduceEq, if_false, if_true, hu, Option.isSome_none, Bool.false_eq_true]
  split
  · rename_i h₁ h₂ h₃ h₄ rest
    rw [takeHex_cons]
    cases hexValue? h₁ h₂ h₃ h₄ <;> rfl
  · rename_i short
    rw [takeHex_eq_none short]

/-- The second half of a surrogate pair. -/
def lowHalf : Reader Nat
  | [] => fail .eofInString []
  | s :: cs =>
    if s = '\\' then
      match cs with
      | [] => fail .eofInString []
      | u :: cs =>
        if u = 'u' then
          match takeHex cs with
          | none => badHex cs
          | some (m, rest) => if isLowSurrogate m then .ok (m, rest) else fail .loneSurrogate rest
        else failNext .hexEscapeCut (u :: cs)
    else failNext .hexEscapeCut (s :: cs)

/-- A character that is spelled by its code. -/
def codeChar (cs : List Char) : Except Fault (Char × List Char) :=
  match takeHex cs with
  | none => badHex cs
  | some (n, rest) =>
    if isLowSurrogate n then fail .loneSurrogate rest
    else if isHighSurrogate n then (lowHalf rest).map fun (m, rest) => (joinSurrogates n m, rest)
    else .ok (Char.ofNat n, rest)

theorem badHex_ne_ok {x : α} : badHex cs ≠ .ok x := by
  unfold badHex
  split <;> exact fun h => nomatch h

theorem badHex_bind {f : α → Except Fault β} (cs : List Char) : (badHex cs >>= f) = badHex cs := by
  unfold badHex
  split <;> rfl

theorem readChars_high {h₁ h₂ h₃ h₄ : Char} {n : Nat} (value : hexValue? h₁ h₂ h₃ h₄ = some n)
    (low : isLowSurrogate n = false) (high : isHighSurrogate n = true) (cs : List Char) :
    readChars ('\\' :: 'u' :: h₁ :: h₂ :: h₃ :: h₄ :: cs) =
      lowHalf cs >>= fun (m, rest) => prepend (joinSurrogates n m) (readChars rest) := by
  have hu : shortEscape? 'u' = none := by decide
  rw [readChars.eq_def]
  simp only [Char.reduceEq, if_false, if_true, hu, value, low, high, Bool.false_eq_true]
  unfold lowHalf
  cases cs with
  | nil => rfl
  | cons s cs =>
    simp only
    split
    · cases cs with
      | nil => rfl
      | cons u cs =>
        simp only
        split
        · split
          · rename_i l₁ l₂ l₃ l₄ last
            rw [takeHex_cons]
            cases hexValue? l₁ l₂ l₃ l₄ with
            | none => exact (badHex_bind _).symm
            | some m =>
              simp only [Option.map_some]
              split <;> rfl
          · rename_i short
            rw [takeHex_eq_none short]
            exact (badHex_bind _).symm
        · rfl
    · rfl

/-- What stands for a character by its code is read first, then the others are. -/
theorem readChars_codeChar (cs : List Char) :
    readChars ('\\' :: 'u' :: cs) = codeChar cs >>= fun (c, rest) => prepend c (readChars rest) := by
  have hu : shortEscape? 'u' = none := by decide
  unfold codeChar
  by_cases short : ∀ h₁ h₂ h₃ h₄ rest, cs ≠ h₁ :: h₂ :: h₃ :: h₄ :: rest
  · rw [takeHex_eq_none short, readChars.eq_def]
    simp only [Char.reduceEq, if_false, if_true, hu]
    exact (badHex_bind _).symm
  simp only [not_forall, ne_eq, not_not] at short
  obtain ⟨h₁, h₂, h₃, h₄, rest, rfl⟩ := short
  rw [takeHex_cons]
  cases value : hexValue? h₁ h₂ h₃ h₄ with
  | none =>
    rw [readChars.eq_def]
    simp only [Char.reduceEq, if_false, if_true, hu, value]
    exact (badHex_bind _).symm
  | some n =>
    simp only [Option.map_some]
    split
    · rename_i low
      rw [readChars.eq_def]
      simp only [Char.reduceEq, if_false, if_true, hu, value, low]
      rfl
    rename_i low
    split
    · rename_i high
      rw [readChars_high value (by simpa using low) high]
      generalize joinSurrogates n = join
      cases lowHalf rest <;> rfl
    · rename_i high
      rw [readChars_code value (by simpa using low) (by simpa using high)]
      rfl

/-! ## Values -/

theorem wrongType_other (h : c ≠ 'n' ∧ c ≠ 't' ∧ c ≠ 'f' ∧ c ≠ '"' ∧ c ≠ '[' ∧ c ≠ '{') (expected : String)
    (cs : List Char) : (wrongType expected (c :: cs) : Except Fault α) =
      if c = '-' ∨ isDigit c then
        readNumber (c :: cs) >>= fun (n, rest) => fail (.wrongType (.number n) expected) rest
      else failNext .expectedValue (c :: cs) := by
  obtain ⟨h₁, h₂, h₃, h₄, h₅, h₆⟩ := h
  simp [wrongType]

theorem skipScalar_other (h : c ≠ 'n' ∧ c ≠ 't' ∧ c ≠ 'f' ∧ c ≠ '"') (cs : List Char) :
    skipScalar (c :: cs) = if c = '-' ∨ isDigit c then skipNumber (c :: cs) else failNext .expectedValue (c :: cs) := by
  obtain ⟨h₁, h₂, h₃, h₄⟩ := h
  simp [skipScalar]

end SearchDomain.Json
