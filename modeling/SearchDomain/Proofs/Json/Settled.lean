import SearchDomain.Proofs.Json.Spelling
/-!
# Settled — readers on the texts of values

A reader either takes a text off the front, whatever follows, or refuses it, whatever follows (`Settled`). Which of the
two depends on limits that the grammar does not know: on the size of numbers and on the depth of brackets. Every text
of a value is settled for the reader of values (`settled_value`), and so for the readers of typed leaves.
-/
namespace SearchDomain.Json

variable {α β : Type} {read : Reader α} {cs ds rest : List Char} {x : α}

/-- The reader takes the text, with this value, and leaves what follows. -/
def Reads (read : Reader α) (cs : List Char) (x : α) : Prop :=
  ∀ rest, Delimited rest → read (cs ++ rest) = .ok (x, rest)

/-- The reader does not take the text. -/
def Refuses (read : Reader α) (cs : List Char) : Prop :=
  ∀ rest, Delimited rest → ∃ fault, read (cs ++ rest) = .error fault

/-- What a reader makes of a text does not depend on what follows. -/
def Settled (read : Reader α) (cs : List Char) : Prop := (∃ x, Reads read cs x) ∨ Refuses read cs

theorem Settled.of_eq {read' : Reader α} (eq : ∀ rest, Delimited rest → read (cs ++ rest) = read' (ds ++ rest))
    (h : Settled read' ds) : Settled read cs := by
  rcases h with ⟨x, reads⟩ | refuses
  · exact .inl ⟨x, fun rest hr => (eq rest hr).trans (reads rest hr)⟩
  · refine .inr fun rest hr => ?_
    rw [eq rest hr]
    exact refuses rest hr

theorem Settled.map (h : Settled read cs) (f : α → β) :
    Settled (fun cs => (read cs).map fun (x, rest) => (f x, rest)) cs := by
  rcases h with ⟨x, reads⟩ | refuses
  · refine .inl ⟨f x, fun rest hr => ?_⟩
    show (read (cs ++ rest)).map _ = _
    rw [reads rest hr]
    rfl
  · refine .inr fun rest hr => ?_
    obtain ⟨fault, he⟩ := refuses rest hr
    refine ⟨fault, ?_⟩
    show (read (cs ++ rest)).map _ = _
    rw [he]
    rfl

theorem Reads.map (h : Reads read cs x) (f : α → β) :
    Reads (fun cs => (read cs).map fun (x, rest) => (f x, rest)) cs (f x) := fun rest hr => by
  show (read (cs ++ rest)).map _ = _
  rw [h rest hr]
  rfl

theorem Reads.unique {y : α} (h : Reads read cs x) (h' : Reads read cs y) : x = y := by
  cases (h [] delimited_nil).symm.trans (h' [] delimited_nil)
  rfl

theorem Reads.not_refuses (h : Reads read cs x) : ¬ Refuses read cs := fun refuses => by
  obtain ⟨fault, he⟩ := refuses [] delimited_nil
  cases he.symm.trans (h [] delimited_nil)

/-! ## Steps that succeed -/

theorem bind_eq_ok {ε : Type} {a : Except ε α} {f : α → Except ε β} {y : β} (h : a >>= f = .ok y) :
    ∃ x, a = .ok x ∧ f x = .ok y := by
  cases a with
  | error e => cases h
  | ok x => exact ⟨x, rfl, h⟩

theorem map_eq_ok {ε : Type} {a : Except ε α} {f : α → β} {y : β} (h : a.map f = .ok y) : ∃ x, a = .ok x ∧ f x = y := by
  cases a with
  | error e => cases h
  | ok x => exact ⟨x, rfl, Except.ok.inj h⟩

/-! ## Strings -/

theorem readChars_short {e x : Char} (h : shortEscape? e = some x) (cs : List Char) :
    readChars ('\\' :: e :: cs) = prepend x (readChars cs) := by
  rw [readChars.eq_def]
  simp [h]

theorem readChars_plain {c : Char} (hq : c ≠ '"') (hb : c ≠ '\\') (h : ¬ c.toNat < 0x20) (cs : List Char) :
    readChars (c :: cs) = prepend c (readChars cs) := by
  rw [readChars.eq_def]
  simp only [if_neg hq, if_neg hb, if_neg h]

theorem readChars_code {h₁ h₂ h₃ h₄ : Char} {n : Nat} (value : hexValue? h₁ h₂ h₃ h₄ = some n)
    (low : isLowSurrogate n = false) (high : isHighSurrogate n = false) (cs : List Char) :
    readChars ('\\' :: 'u' :: h₁ :: h₂ :: h₃ :: h₄ :: cs) = prepend (Char.ofNat n) (readChars cs) := by
  have hu : shortEscape? 'u' = none := by decide
  rw [readChars.eq_def]
  simp [hu, value, low, high]

theorem readChars_pair {h₁ h₂ h₃ h₄ l₁ l₂ l₃ l₄ : Char} {n m : Nat} (value : hexValue? h₁ h₂ h₃ h₄ = some n)
    (high : isHighSurrogate n = true) (value' : hexValue? l₁ l₂ l₃ l₄ = some m) (low : isLowSurrogate m = true)
    (cs : List Char) : readChars ('\\' :: 'u' :: h₁ :: h₂ :: h₃ :: h₄ :: '\\' :: 'u' :: l₁ :: l₂ :: l₃ :: l₄ :: cs) =
      prepend (joinSurrogates n m) (readChars cs) := by
  have hu : shortEscape? 'u' = none := by decide
  have hlow : isLowSurrogate n = false := by
    unfold isHighSurrogate at high
    unfold isLowSurrogate
    simp only [Bool.and_eq_true, decide_eq_true_eq] at high
    simp only [Bool.and_eq_false_iff, decide_eq_false_iff_not]
    omega
  rw [readChars.eq_def]
  simp [hu, value, high, hlow, value', low]

theorem Spelled.readChars {c : Char} (h : Spelled c cs) (rest : List Char) :
    readChars (cs ++ rest) = prepend c (Json.readChars rest) := by
  cases h with
  | plain quote backslash printable => exact readChars_plain quote backslash printable rest
  | short short => exact readChars_short short rest
  | code value low high => exact readChars_code value low high rest
  | pair value high value' low => exact readChars_pair value high value' low rest

theorem Spells.readChars {s : List Char} (h : Spells s cs) (rest : List Char) :
    readChars (cs ++ '"' :: rest) = .ok (s, rest) := by
  induction h with
  | nil =>
    show Json.readChars ('"' :: rest) = _
    rw [readChars.eq_def]
    rfl
  | cons first _ ih =>
    rw [List.append_assoc, first.readChars, ih]
    rfl

/-- Past its opening quote a literal is read as its string, whatever follows. -/
theorem Spells.readString {s : String} (h : Spells s.toList cs) (rest : List Char) :
    readString (cs ++ '"' :: rest) = .ok (s, rest) := by
  unfold Json.readString
  rw [h.readChars]
  show Except.ok (String.ofList s.toList, rest) = _
  rw [String.ofList_toList]

/-! ## Numbers -/

theorem Delimited.not_digit (h : Delimited rest) : ∀ c ∈ rest.head?, isDigit c = false := by
  intro c hc
  rcases h c hc with hb | rfl | rfl | rfl
  · cases hd : isDigit c with
    | false => rfl
    | true => cases hb.symm.trans (isBlank_of_isDigit hd)
  · decide
  · decide
  · decide

theorem Delimited.not_mark {c : Char} (h : Delimited (c :: rest)) : isExponentMark c = false ∧ c ≠ '.' := by
  rcases h c rfl with hb | rfl | rfl | rfl
  · unfold isBlank at hb
    simp only [Bool.or_eq_true, beq_iff_eq] at hb
    rcases hb with ((rfl | rfl) | rfl) | rfl <;> decide
  · decide
  · decide
  · decide

theorem digits_append (h : Digits ds) (stop : ∀ c ∈ rest.head?, isDigit c = false) :
    digits (ds ++ rest) = (ds, rest) := by
  have hrest : rest.takeWhile isDigit = [] ∧ rest.dropWhile isDigit = rest := by
    cases rest with
    | nil => exact ⟨rfl, rfl⟩
    | cons c rest =>
      have hc := stop c rfl
      exact ⟨by rw [List.takeWhile_cons, hc]; rfl, by rw [List.dropWhile_cons, hc]; rfl⟩
  unfold digits
  rw [List.takeWhile_append_of_pos h, List.dropWhile_append_of_pos h, hrest.1, hrest.2, List.append_nil]

theorem settled_floatNumber (negative : Bool) (significand : Nat) (exponent : Int) :
    Settled (floatNumber negative significand exponent) [] := by
  unfold Settled Reads Refuses floatNumber
  cases Decimal.Binary64.ofParts? significand exponent with
  | some x => exact .inl ⟨_, fun rest _ => rfl⟩
  | none => exact .inr fun rest _ => ⟨_, rfl⟩

theorem settled_wholeNumber (negative : Bool) (n : Nat) : Settled (wholeNumber negative n) [] := by
  cases negative with
  | false => exact .inl ⟨.whole n, fun rest _ => rfl⟩
  | true =>
    by_cases hn : n = 0 ∨ 0x8000000000000000 < n
    · refine .of_eq (fun rest _ => ?_) (settled_floatNumber true n 0)
      unfold wholeNumber
      simp [hn]
    · refine .inl ⟨.whole (-n), fun rest _ => ?_⟩
      unfold wholeNumber
      simp [hn]

/-- The digits of an exponent, once its sign is known. -/
def exponentDigits (negative down : Bool) (significand : Nat) (start : Int) : Reader JsonNumber
  | [] => fail .eofInValue []
  | c :: cs =>
    if isDigit c then
      let (ds, rest) := digits (c :: cs)
      match appendDigits maxExponent 0 ds with
      | (e, []) => floatNumber negative significand (if down then start - e else start + e) rest
      | (_, excess) =>
        if significand ≠ 0 ∧ !down then fail .numberOutOfRange (excess.drop 1 ++ rest)
        else .ok (.float (Decimal.Binary64.zero.withSign negative), rest)
    else failNext .badNumber (c :: cs)

theorem readExponent_unsigned (negative : Bool) (significand : Nat) (start : Int) {c : Char} (plus : c ≠ '+')
    (minus : c ≠ '-') (cs : List Char) :
    readExponent negative significand start (c :: cs) = exponentDigits negative false significand start (c :: cs) := by
  unfold readExponent
  split
  rename_i he
  split at he
  · rename_i hc
    cases hc
    exact absurd rfl plus
  · rename_i hc
    cases hc
    exact absurd rfl minus
  · cases he
    rfl

theorem settled_exponentDigits (negative down : Bool) (significand : Nat) (start : Int) {d : Char}
    (h : Digits (d :: ds)) : Settled (exponentDigits negative down significand start) (d :: ds) := by
  have hd : isDigit d = true := h d List.mem_cons_self
  have hdigits : ∀ rest, Delimited rest → digits (d :: (ds ++ rest)) = (d :: ds, rest) :=
    fun rest hr => digits_append h hr.not_digit
  obtain ⟨e, excess, ha⟩ : ∃ e excess, appendDigits maxExponent 0 (d :: ds) = (e, excess) := ⟨_, _, rfl⟩
  cases excess with
  | nil =>
    refine .of_eq (fun rest hr => ?_)
      (settled_floatNumber negative significand (if down then start - e else start + e))
    unfold exponentDigits
    simp only [List.cons_append, hd, if_true, hdigits rest hr, ha, List.nil_append]
  | cons c excess =>
    unfold exponentDigits
    by_cases hs : significand ≠ 0 ∧ !down
    · refine .inr fun rest hr => ⟨⟨.numberOutOfRange, (c :: excess).drop 1 ++ rest, 0⟩, ?_⟩
      simp only [List.cons_append, hd, if_true, hdigits rest hr, ha, if_pos hs]
      rfl
    · refine .inl ⟨.float (Decimal.Binary64.zero.withSign negative), fun rest hr => ?_⟩
      simp only [List.cons_append, hd, if_true, hdigits rest hr, ha, if_neg hs]

theorem settled_readExponent (negative : Bool) (significand : Nat) (start : Int) {sign : List Char} {d : Char}
    (signed : sign = [] ∨ sign = ['+'] ∨ sign = ['-']) (h : Digits (d :: ds)) :
    Settled (readExponent negative significand start) (sign ++ d :: ds) := by
  have hd : isDigit d = true := h d List.mem_cons_self
  rcases signed with rfl | rfl | rfl
  · refine .of_eq (fun rest _ => ?_) (settled_exponentDigits negative false significand start h)
    exact readExponent_unsigned negative significand start (ne_of_isDigit hd (by decide))
      (ne_of_isDigit hd (by decide)) _
  · exact .of_eq (fun rest _ => rfl) (settled_exponentDigits negative false significand start h)
  · exact .of_eq (fun rest _ => rfl) (settled_exponentDigits negative true significand start h)

/-- What may follow the last digit before an exponent: the exponent, or nothing. -/
def scale (negative : Bool) (significand : Nat) (exponent : Int) : Reader JsonNumber
  | [] => floatNumber negative significand exponent []
  | c :: cs =>
    if isExponentMark c then readExponent negative significand exponent cs
    else floatNumber negative significand exponent (c :: cs)

theorem settled_scale (negative : Bool) (significand : Nat) (start : Int) (h : ExponentText cs) :
    Settled (scale negative significand start) cs := by
  cases h with
  | none =>
    refine .of_eq (fun rest hr => ?_) (settled_floatNumber negative significand start)
    cases rest with
    | nil => rfl
    | cons c rest =>
      show (if isExponentMark c then _ else _) = _
      rw [hr.not_mark.1]
      rfl
  | mark mark signed digits =>
    refine .of_eq (fun rest _ => ?_) (settled_readExponent negative significand start signed digits)
    exact if_pos mark

theorem ExponentText.not_digit (h : ExponentText cs) (delimited : Delimited rest) :
    ∀ c ∈ (cs ++ rest).head?, isDigit c = false := by
  cases h with
  | none => exact delimited.not_digit
  | mark mark signed digits =>
    intro c hc
    cases hc
    unfold isExponentMark at mark
    simp only [Bool.or_eq_true, beq_iff_eq] at mark
    rcases mark with rfl | rfl <;> decide

theorem ExponentText.not_point (h : ExponentText cs) (delimited : Delimited rest) :
    ∀ c ∈ (cs ++ rest).head?, c ≠ '.' := by
  intro c hc
  cases h with
  | none =>
    cases rest with
    | nil => cases hc
    | cons d rest =>
      cases hc
      exact delimited.not_mark.2
  | mark mark signed digits =>
    cases hc
    rintro rfl
    exact absurd mark (by decide)

theorem readFraction_scale (negative : Bool) (significand skipped : Nat) (h : ∀ c ∈ cs.head?, c ≠ '.') :
    readFraction negative significand skipped cs = scale negative significand skipped cs := by
  unfold readFraction
  split
  · exact absurd rfl (h '.' rfl)
  · rfl
  · rfl

theorem readFraction_point (negative : Bool) (significand skipped : Nat) {d : Char}
    (h : digits (d :: cs) = (d :: ds, rest)) :
    readFraction negative significand skipped ('.' :: d :: cs) =
      scale negative (appendDigits maxWord significand (d :: ds)).1
        (skipped - ((d :: ds).length - (appendDigits maxWord significand (d :: ds)).2.length : Nat)) rest := by
  unfold readFraction
  simp only [h]
  cases rest <;> rfl

theorem settled_readFraction (negative : Bool) (significand skipped : Nat) {fs es : List Char}
    (fraction : FractionText fs) (exponent : ExponentText es) :
    Settled (readFraction negative significand skipped) (fs ++ es) := by
  cases fraction with
  | none =>
    refine .of_eq (fun rest hr => ?_) (settled_scale negative significand skipped exponent)
    exact readFraction_scale negative significand skipped (exponent.not_point hr)
  | @point d ds digits =>
    have hd : ∀ rest, Delimited rest → Json.digits (d :: (ds ++ es ++ rest)) = (d :: ds, es ++ rest) := by
      intro rest hr
      rw [List.append_assoc]
      exact digits_append digits (exponent.not_digit hr)
    exact .of_eq (fun rest hr => readFraction_point negative significand skipped (hd rest hr))
      (settled_scale negative _ _ exponent)

theorem FractionText.not_digit {fs es : List Char} (fraction : FractionText fs) (exponent : ExponentText es)
    (delimited : Delimited rest) : ∀ c ∈ (fs ++ es ++ rest).head?, isDigit c = false := by
  cases fraction with
  | none => exact exponent.not_digit delimited
  | point =>
    intro c hc
    cases hc
    decide

/-- The digits of the whole part are all, or what follows shows that they are not. -/
theorem FractionText.nil_or_head {fs es : List Char} (fraction : FractionText fs) (exponent : ExponentText es) :
    fs ++ es = [] ∨ ∃ c ∈ (fs ++ es).head?, c = '.' ∨ isExponentMark c := by
  cases fraction with
  | none =>
    cases exponent with
    | none => exact .inl rfl
    | mark mark => exact .inr ⟨_, rfl, .inr mark⟩
  | point => exact .inr ⟨'.', rfl, .inl rfl⟩

/-- What may follow the digits of the whole part, some of which may not have fitted a word. -/
def afterWhole (negative : Bool) (n : Nat) (excess : List Char) : Reader JsonNumber := fun cs =>
  if (cs.head?.any fun c => c = '.' ∨ isExponentMark c) ∨ excess ≠ [] then readFraction negative n excess.length cs
  else wholeNumber negative n cs

theorem readUnsigned_digits (negative : Bool) {ws : List Char} (whole : WholeText ws)
    (stop : ∀ c ∈ rest.head?, isDigit c = false) :
    readUnsigned negative (ws ++ rest) =
      afterWhole negative (appendDigits maxWord 0 ws).1 (appendDigits maxWord 0 ws).2 rest := by
  have hd : digits (ws ++ rest) = (ws, rest) := by
    cases whole with
    | zero =>
      have zero : Digits ['0'] := fun c hc => by rw [List.mem_singleton.1 hc]; decide
      exact digits_append zero stop
    | digits _ digits => exact digits_append digits stop
  obtain ⟨c, cs, rfl, hc, hzero⟩ : ∃ c cs, ws = c :: cs ∧ isDigit c = true ∧
      ¬ (c = '0' ∧ (cs ++ rest).head?.any isDigit = true) := by
    cases whole with
    | zero =>
      refine ⟨'0', [], rfl, by decide, fun h => ?_⟩
      obtain ⟨c, hc, hd⟩ := (Option.any_eq_true _ _).1 h.2
      cases (stop c hc).symm.trans hd
    | digits nonzero digits => exact ⟨_, _, rfl, digits _ List.mem_cons_self, fun h => nonzero h.1⟩
  rw [List.cons_append] at hd ⊢
  unfold readUnsigned
  simp only [if_neg hzero, hc, if_true, hd]
  unfold afterWhole
  cases rest with
  | nil => simp
  | cons m rest => simp [or_assoc]

/-- Where nothing goes on with the digits, they are a whole number. -/
theorem afterWhole_delimited (negative : Bool) (n : Nat) (delimited : Delimited rest) :
    afterWhole negative n [] rest = wholeNumber negative n rest := by
  refine if_neg ?_
  rintro (hany | hne)
  · cases rest with
    | nil => cases hany
    | cons d rest =>
      rcases of_decide_eq_true hany with rfl | hm
      · exact delimited.not_mark.2 rfl
      · cases hm.symm.trans delimited.not_mark.1
  · exact hne rfl

theorem settled_readUnsigned (negative : Bool) (h : UnsignedText cs) : Settled (readUnsigned negative) cs := by
  cases h with
  | @parts ws fs es whole fraction exponent =>
    obtain ⟨n, excess, ha⟩ : ∃ n excess, appendDigits maxWord 0 ws = (n, excess) := ⟨_, _, rfl⟩
    have hafter : ∀ rest, Delimited rest →
        readUnsigned negative (ws ++ (fs ++ es) ++ rest) = afterWhole negative n excess (fs ++ es ++ rest) := by
      intro rest hr
      rw [List.append_assoc, readUnsigned_digits negative whole (fraction.not_digit exponent hr), ha]
    have hfraction : ((fs ++ es).head?.any fun c => c = '.' ∨ isExponentMark c) ∨ excess ≠ [] →
        Settled (readUnsigned negative) (ws ++ (fs ++ es)) := by
      intro hf
      refine .of_eq (fun rest hr => ?_) (settled_readFraction negative n excess.length fraction exponent)
      rw [hafter rest hr]
      refine if_pos (hf.imp_left fun hany => ?_)
      obtain ⟨c, hc, hm⟩ := (Option.any_eq_true _ _).1 hany
      rw [List.head?_append, hc]
      exact hm
    rcases fraction.nil_or_head exponent with hnil | hhead
    · by_cases he : excess = []
      · refine .of_eq (fun rest hr => ?_) (settled_wholeNumber negative n)
        rw [hafter rest hr, hnil, he]
        exact afterWhole_delimited negative n hr
      · exact hfraction (.inr he)
    · obtain ⟨c, hc, hm⟩ := hhead
      exact hfraction (.inl ((Option.any_eq_true _ _).2 ⟨c, hc, decide_eq_true hm⟩))

theorem readNumber_unsigned (h : cs.head? ≠ some '-') : readNumber cs = readUnsigned false cs := by
  unfold readNumber
  split
  · exact absurd rfl h
  · rfl

theorem UnsignedText.readNumber (h : UnsignedText cs) (rest : List Char) :
    readNumber (cs ++ rest) = readUnsigned false (cs ++ rest) := by
  obtain ⟨c, tail, rfl, hc⟩ := h.head
  exact readNumber_unsigned fun he => ne_of_isDigit hc (by decide) (Option.some.inj he)

theorem settled_readNumber (h : NumberText cs) : Settled readNumber cs := by
  cases h with
  | positive unsigned =>
    exact .of_eq (fun rest _ => unsigned.readNumber rest) (settled_readUnsigned false unsigned)
  | negative unsigned => exact .of_eq (fun rest _ => rfl) (settled_readUnsigned true unsigned)

end SearchDomain.Json
