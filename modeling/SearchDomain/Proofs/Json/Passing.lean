import SearchDomain.Json.Skip
import SearchDomain.Proofs.Json.Values
/-!
# Passing — every text of a value is passed over

A value that nobody asked for is looked at for its syntax alone: no limit on numbers or depth applies, so none is
refused (`skipValue_value`). The rounds that it takes are at most two for each character (`Passed`), which is what the
fuel allows.
-/
namespace SearchDomain.Json

variable {cs ds b b' item rest : List Char} {fuel : Nat} {first : Bool} {stack : List Bracket} {bracket : Bracket}

/-! ## Scalars -/

theorem Spelled.skipString {c : Char} (h : Spelled c cs) (rest : List Char) :
    skipString (cs ++ rest) = Json.skipString rest := by
  have hu : shortEscape? 'u' = none := by decide
  cases h with
  | plain quote backslash printable =>
    show Json.skipString (c :: rest) = _
    rw [Json.skipString.eq_def]
    simp only [if_neg quote, if_neg backslash, if_neg printable]
  | short short =>
    show Json.skipString ('\\' :: _ :: rest) = _
    rw [Json.skipString.eq_def]
    simp [short]
  | code value =>
    show Json.skipString ('\\' :: 'u' :: _ :: _ :: _ :: _ :: rest) = _
    rw [Json.skipString.eq_def]
    simp [hu, value]
  | pair value _ value' =>
    show Json.skipString ('\\' :: 'u' :: _ :: _ :: _ :: _ :: '\\' :: 'u' :: _ :: _ :: _ :: _ :: rest) = _
    rw [Json.skipString.eq_def]
    simp only [Char.reduceEq, if_false, if_true, hu, Option.isSome_none, Bool.false_eq_true, value, Option.isSome_some]
    rw [Json.skipString.eq_def]
    simp [hu, value']

theorem Spells.skipString {s : List Char} (h : Spells s cs) (rest : List Char) :
    skipString (cs ++ '"' :: rest) = .ok rest := by
  induction h with
  | nil =>
    show Json.skipString ('"' :: rest) = _
    rw [Json.skipString.eq_def]
    rfl
  | cons first _ ih => rw [List.append_assoc, first.skipString, ih]

theorem dropWhile_digits (h : Digits ds) (stop : ∀ c ∈ rest.head?, isDigit c = false) :
    (ds ++ rest).dropWhile isDigit = rest := congrArg Prod.snd (digits_append h stop)

theorem skipExponent_digits {sign : List Char} {d : Char} (signed : sign = [] ∨ sign = ['+'] ∨ sign = ['-'])
    (h : Digits (d :: ds)) (delimited : Delimited rest) : skipExponent (sign ++ d :: ds ++ rest) = .ok rest := by
  have hd : isDigit d = true := h d List.mem_cons_self
  have hdrop : (d :: (ds ++ rest)).dropWhile isDigit = rest := dropWhile_digits h delimited.not_digit
  rcases signed with rfl | rfl | rfl
  · unfold skipExponent
    have hplus : d ≠ '+' := ne_of_isDigit hd (by decide)
    have hminus : d ≠ '-' := ne_of_isDigit hd (by decide)
    simp [hd, hdrop, hplus, hminus]
  · unfold skipExponent
    simp [hd, hdrop]
  · unfold skipExponent
    simp [hd, hdrop]

theorem skipFraction_cons {c : Char} (point : c ≠ '.') (cs : List Char) :
    skipFraction (c :: cs) = if isExponentMark c then skipExponent cs else .ok (c :: cs) := by
  unfold skipFraction
  split
  · rename_i he
    cases he
    exact absurd rfl point
  · rename_i he
    cases he
    rfl
  · rename_i he
    cases he

theorem skipFraction_exponent (h : ExponentText cs) (delimited : Delimited rest) :
    skipFraction (cs ++ rest) = .ok rest := by
  cases h with
  | none =>
    cases rest with
    | nil => rfl
    | cons c rest =>
      obtain ⟨hmark, hpoint⟩ := delimited.not_mark
      show skipFraction (c :: rest) = _
      rw [skipFraction_cons hpoint, hmark]
      rfl
  | @mark e sign d ds mark signed digits =>
    have hpoint : e ≠ '.' := by
      rintro rfl
      exact absurd mark (by decide)
    show skipFraction (e :: (sign ++ d :: ds ++ rest)) = _
    rw [skipFraction_cons hpoint, if_pos mark]
    exact skipExponent_digits signed digits delimited

/-- Past the digits after a point things go on as they do without a point. -/
theorem skipFraction_point {d : Char} (h : Digits (d :: ds)) (stop : ∀ c ∈ cs.head?, isDigit c = false)
    (point : ∀ c ∈ cs.head?, c ≠ '.') : skipFraction ('.' :: d :: (ds ++ cs)) = skipFraction cs := by
  have hdrop : (d :: (ds ++ cs)).dropWhile isDigit = cs := dropWhile_digits h stop
  have hd : isDigit d = true := h d List.mem_cons_self
  rw [skipFraction]
  simp only [List.head?_cons, Option.any_some, hd, if_true, hdrop]
  cases cs with
  | nil => rfl
  | cons c cs =>
    rw [skipFraction_cons (point c rfl)]

theorem skipFraction_parts {fs es : List Char} (fraction : FractionText fs) (exponent : ExponentText es)
    (delimited : Delimited rest) : skipFraction (fs ++ es ++ rest) = .ok rest := by
  cases fraction with
  | none => exact skipFraction_exponent exponent delimited
  | @point d ds digits =>
    show skipFraction ('.' :: d :: (ds ++ es ++ rest)) = _
    rw [List.append_assoc, skipFraction_point digits (exponent.not_digit delimited) (exponent.not_point delimited)]
    exact skipFraction_exponent exponent delimited

theorem skipUnsigned_parts (h : UnsignedText cs) (delimited : Delimited rest) :
    skipUnsigned (cs ++ rest) = .ok rest := by
  cases h with
  | @parts ws fs es whole fraction exponent =>
    have hstop := fraction.not_digit exponent delimited
    rw [List.append_assoc]
    cases whole with
    | zero =>
      have hany : (fs ++ es ++ rest).head?.any isDigit = false := by
        cases h : (fs ++ es ++ rest).head? with
        | none => rfl
        | some c => exact hstop c h
      show skipUnsigned ('0' :: (fs ++ es ++ rest)) = _
      unfold skipUnsigned
      simp only [if_true, hany, Bool.false_eq_true, if_false]
      exact skipFraction_parts fraction exponent delimited
    | @digits d ds nonzero digits =>
      have hdrop : (ds ++ (fs ++ es ++ rest)).dropWhile isDigit = fs ++ es ++ rest :=
        dropWhile_digits (fun c hc => digits c (List.mem_cons_of_mem _ hc)) hstop
      show skipUnsigned (d :: (ds ++ (fs ++ es ++ rest))) = _
      unfold skipUnsigned
      simp only [if_neg nonzero, digits d List.mem_cons_self, if_true, hdrop]
      exact skipFraction_parts fraction exponent delimited

theorem skipNumber_parts (h : NumberText cs) (delimited : Delimited rest) : skipNumber (cs ++ rest) = .ok rest := by
  cases h with
  | positive unsigned =>
    rw [← skipUnsigned_parts unsigned delimited]
    obtain ⟨c, tail, rfl, hc⟩ := unsigned.head
    have hm : c ≠ '-' := ne_of_isDigit hc (by decide)
    unfold skipNumber
    split
    · rename_i he
      cases he
      exact absurd rfl hm
    · rfl
  | negative unsigned => exact skipUnsigned_parts unsigned delimited

theorem skipScalar_number {c : Char} (h : c = '-' ∨ isDigit c = true) (cs : List Char) :
    skipScalar (c :: cs) = skipNumber (c :: cs) := by
  have hne : ∀ d : Char, '-' ≠ d → isDigit d = false → c ≠ d := fun d => ne_of_number h
  unfold skipScalar
  split
  case h_5 =>
    rename_i he
    cases he
    exact if_pos h
  case h_6 =>
    rename_i he
    cases he
  all_goals
    rename_i he
    cases he
    exact absurd rfl (hne _ (by decide) (by decide))

/-! ## Values -/

/-- A text is passed over as a value, in at most two rounds for each character. -/
def Passed (cs : List Char) : Prop :=
  ∃ rounds < 2 * cs.length, ∀ fuel stack rest, Delimited rest →
    skipFrom (fuel + rounds + 1) .value stack (cs ++ rest) = skipFrom fuel (.item false) stack rest

theorem skipFrom_blanks (blank : Blank b) (fuel : Nat) (stack : List Bracket) (cs : List Char) :
    skipFrom (fuel + 1) .value stack (b ++ cs) = skipFrom (fuel + 1) .value stack cs := by
  rw [skipFrom, skipFrom, skipBlanks_append blank]

/-- A scalar takes one round. -/
theorem passed_scalar {c : Char} (blank : isBlank c = false) (list : c ≠ '[') (object : c ≠ '{')
    (scalar : ∀ rest, Delimited rest → skipScalar (c :: cs ++ rest) = .ok rest) : Passed (c :: cs) := by
  refine ⟨0, Nat.mul_pos Nat.two_pos (Nat.succ_pos _), fun fuel stack rest delimited => ?_⟩
  have hscalar := scalar rest delimited
  rw [List.cons_append] at hscalar ⊢
  rw [skipFrom, skipBlanks_cons blank]
  split
  · rename_i he
    cases he
    exact absurd rfl list
  · rename_i he
    cases he
    exact absurd rfl object
  · rw [hscalar]
    rfl

/-- The turn from an opened bracket, or from an item, to the next item of a list. -/
theorem skipFrom_item (before : Blank b) (after : Blank b') (begins : Begins item) (cs : List Char) :
    skipFrom (fuel + 2) (.item first) (.list :: stack) (b ++ (separator first ++ (b' ++ (item ++ cs)))) =
      skipFrom (fuel + 1) .value (.list :: stack) (item ++ cs) := by
  obtain ⟨c, tail, rfl, hb, hc⟩ := begins
  conv_lhs => rw [skipFrom, skipBlanks_append before]
  cases first with
  | true =>
    have hclose : c ≠ Bracket.list.close := hc
    rw [separator, List.nil_append, skipBlanks_append after, List.cons_append, skipBlanks_cons hb]
    simp only [Bool.not_true, Bool.false_eq_true, and_false, if_false, if_neg hclose, if_true]
    rfl
  | false =>
    rw [separator, List.singleton_append, skipBlanks_cons (by decide)]
    show skipFrom (fuel + 1) .value (.list :: stack) (b' ++ (c :: tail ++ cs)) = _
    rw [skipFrom_blanks after]

theorem skipKey_literal {key : String} {name g : List Char} (blank : Blank b) (literal : Literal key name)
    (beforeColon : Blank g) (cs : List Char) : skipKey (b ++ (name ++ (g ++ ':' :: cs))) = .ok cs := by
  cases literal with
  | quoted spells =>
    unfold skipKey
    rw [skipBlanks_append blank, List.cons_append, skipBlanks_cons (by decide), List.append_assoc]
    simp only [List.singleton_append, spells.skipString]
    simp only [bind, Except.bind, skipBlanks_append beforeColon]
    rfl

/-- The turn from an opened bracket, or from a member, to the value of the next member. -/
theorem skipFrom_member {key : String} {name g w value : List Char} (before : Blank b) (beforeKey : Blank b')
    (literal : Literal key name) (beforeColon : Blank g) (beforeValue : Blank w) (cs : List Char) :
    skipFrom (fuel + 2) (.item first) (.object :: stack)
        (b ++ (separator first ++ (b' ++ (name ++ (g ++ ':' :: (w ++ (value ++ cs))))))) =
      skipFrom (fuel + 1) .value (.object :: stack) (value ++ cs) := by
  conv_lhs => rw [skipFrom, skipBlanks_append before]
  cases first with
  | true =>
    have hkey := skipKey_literal blank_nil literal beforeColon (w ++ (value ++ cs))
    obtain ⟨tail, rfl⟩ : ∃ tail, name = '"' :: tail := by
      cases literal
      exact ⟨_, rfl⟩
    rw [List.nil_append] at hkey
    rw [separator, List.nil_append, skipBlanks_append beforeKey, List.cons_append, skipBlanks_cons (by decide)]
    show (skipKey ('"' :: tail ++ (g ++ ':' :: (w ++ (value ++ cs)))) >>= _) = _
    rw [hkey]
    exact skipFrom_blanks beforeValue _ _ _
  | false =>
    rw [separator, List.singleton_append, skipBlanks_cons (by decide)]
    show (skipKey (b' ++ (name ++ (g ++ ':' :: (w ++ (value ++ cs))))) >>= _) = _
    rw [skipKey_literal beforeKey literal beforeColon]
    exact skipFrom_blanks beforeValue _ _ _

/-- A closing bracket. -/
theorem skipFrom_close (bracket : Bracket) (blank : Blank b) (rest : List Char) :
    skipFrom (fuel + 1) (.item first) (bracket :: stack) (b ++ (bracket.close :: rest)) =
      skipFrom fuel (.item false) stack rest := by
  have hb : isBlank bracket.close = false := by cases bracket <;> decide
  have hc : bracket.close ≠ ',' := by cases bracket <;> decide
  rw [skipFrom, skipBlanks_append blank, skipBlanks_cons hb]
  simp only [hc, false_and, if_false, if_true]

/-- Up to the closing bracket a list takes as many rounds as its items and the turns to them. -/
theorem passed_items {items : List (List Char)} (h : ItemsText first items cs) (begins : ∀ item ∈ items, Begins item)
    (passed : ∀ item ∈ items, Passed item) :
    ∃ rounds, rounds + (separator first).length < 2 * cs.length ∧ ∀ fuel stack rest,
      skipFrom (fuel + rounds + 1) (.item first) (.list :: stack) (cs ++ rest) =
        skipFrom fuel (.item false) stack rest := by
  induction h with
  | @close first b blank =>
    refine ⟨0, ?_, fun fuel stack rest => ?_⟩
    · cases first <;> simp [separator]
      omega
    · rw [List.append_assoc]
      exact skipFrom_close .list blank rest
  | @item first b b' item cs items before after tail ih =>
    obtain ⟨n, hn, hitem⟩ := passed item List.mem_cons_self
    obtain ⟨m, hm, hrest⟩ := ih (fun i hi => begins i (List.mem_cons_of_mem _ hi))
      fun i hi => passed i (List.mem_cons_of_mem _ hi)
    refine ⟨m + n + 2, ?_, fun fuel stack rest => ?_⟩
    · simp only [separator, List.length_cons, List.length_nil] at hm
      simp only [List.length_append]
      omega
    · simp only [List.append_assoc]
      rw [show fuel + (m + n + 2) + 1 = (fuel + m + 1 + n) + 2 by omega,
        skipFrom_item before after (begins item List.mem_cons_self)]
      rw [hitem _ _ _ (tail.delimited rest)]
      exact hrest fuel stack rest

theorem passed_members {members : List (String × List Char)} (h : MembersText first members cs)
    (passed : ∀ member ∈ members, Passed member.2) :
    ∃ rounds, rounds + (separator first).length < 2 * cs.length ∧ ∀ fuel stack rest,
      skipFrom (fuel + rounds + 1) (.item first) (.object :: stack) (cs ++ rest) =
        skipFrom fuel (.item false) stack rest := by
  induction h with
  | @close first b blank =>
    refine ⟨0, ?_, fun fuel stack rest => ?_⟩
    · cases first <;> simp [separator]
      omega
    · rw [List.append_assoc]
      exact skipFrom_close .object blank rest
  | @member first b b' g w name value cs key members before beforeKey literal beforeColon beforeValue tail ih =>
    obtain ⟨n, hn, hvalue⟩ := passed (key, value) List.mem_cons_self
    obtain ⟨m, hm, hrest⟩ := ih fun i hi => passed i (List.mem_cons_of_mem _ hi)
    refine ⟨m + n + 2, ?_, fun fuel stack rest => ?_⟩
    · simp only [separator, List.length_cons, List.length_nil] at hm
      simp only [List.length_append, List.length_cons]
      dsimp only at hn
      omega
    · simp only [List.append_assoc, List.cons_append]
      rw [show fuel + (m + n + 2) + 1 = (fuel + m + 1 + n) + 2 by omega,
        skipFrom_member before beforeKey literal beforeColon beforeValue, hvalue _ _ _ (tail.delimited rest)]
      exact hrest fuel stack rest

theorem passed_value (h : ValueText cs) : Passed cs := by
  induction h with
  | null => exact passed_scalar (by decide) (by decide) (by decide) fun rest _ => rfl
  | true => exact passed_scalar (by decide) (by decide) (by decide) fun rest _ => rfl
  | false => exact passed_scalar (by decide) (by decide) (by decide) fun rest _ => rfl
  | number number =>
    obtain ⟨c, tail, rfl, hc⟩ := number.head
    refine passed_scalar (isBlank_of_number hc) (ne_of_number hc (by decide) (by decide))
      (ne_of_number hc (by decide) (by decide)) fun rest delimited => ?_
    rw [List.cons_append, skipScalar_number hc]
    exact skipNumber_parts number delimited
  | string literal =>
    cases literal with
    | quoted spells =>
      refine passed_scalar (by decide) (by decide) (by decide) fun rest _ => ?_
      rw [List.cons_append, List.append_assoc]
      exact spells.skipString rest
  | array spelled values ih =>
    cases spelled with
    | @brackets cs inside =>
      obtain ⟨n, hn, hitems⟩ := passed_items inside (fun item hi => (values item hi).begins) ih
      refine ⟨n + 1, ?_, fun fuel stack rest _ => ?_⟩
      · rw [List.length_cons]
        omega
      · exact hitems fuel stack rest
  | object spelled values ih =>
    cases spelled with
    | @brackets cs inside =>
      obtain ⟨n, hn, hmembers⟩ := passed_members inside ih
      refine ⟨n + 1, ?_, fun fuel stack rest _ => ?_⟩
      · rw [List.length_cons]
        omega
      · exact hmembers fuel stack rest

/-- **Every text of a value is passed over**, whatever its size or depth. -/
theorem skipValue_value (blank : Blank b) (h : ValueText cs) (delimited : Delimited rest) :
    skipValue (b ++ (cs ++ rest)) = .ok rest := by
  obtain ⟨n, hn, hskip⟩ := passed_value h
  obtain ⟨fuel, hfuel⟩ : ∃ fuel, 2 * (b ++ (cs ++ rest)).length + 2 = fuel + 1 + n + 1 := by
    refine ⟨2 * (b ++ (cs ++ rest)).length - n, ?_⟩
    rw [List.length_append, List.length_append]
    omega
  unfold skipValue
  rw [hfuel, skipFrom_blanks blank, hskip _ _ _ delimited]
  rfl

end SearchDomain.Json
