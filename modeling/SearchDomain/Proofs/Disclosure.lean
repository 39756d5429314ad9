import SearchDomain.Credential
import SearchDomain.Proofs.Json.Twins.Records
import SearchDomain.Proofs.Text.Quoted
/-!
# Disclosure — what the error for a malformed secret tells of it

The error for a value that is no credential goes to whoever asked for the rotation. Of the texts in the value it tells
nothing but their length, with one exception: a value that is nothing but a literal is quoted in full
(`ofSecret_bare`). So two values that differ in one literal are told apart by their errors exactly if the literal is
the value itself (`indistinct_iff`).
-/
namespace SearchDomain.Credential

open Json

variable {before after p q : List Char} {s : Spot}

/-- A value of a secret with a literal in it. -/
def withLiteral (before literal after : List Char) : String :=
  String.ofList (before ++ '"' :: (literal ++ '"' :: after))

/-- Both values are read, or both are refused with the same text. -/
inductive Indistinct : Except Error Credential → Except Error Credential → Prop
  | read (c c' : Credential) : Indistinct (.ok c) (.ok c')
  | refused {e e' : Error} (message : e.message = e'.message) : Indistinct (.error e) (.error e')

/-! ## The fields -/

/-- Drafts that have the same fields. -/
def Draft.Alike (d d' : Draft) : Prop :=
  d.username.isSome = d'.username.isSome ∧ d.password.isSome = d'.password.isSome

theorem layout_blind (same : Interchangeable p q) : Layout.Blind p q layout Draft.Alike where
  blank := ⟨rfl, rfl⟩
  filled field hfield d d' alike := by
    simp only [layout, List.mem_cons, List.not_mem_nil, or_false] at hfield
    rcases hfield with rfl | rfl
    · exact alike.1
    · exact alike.2
  read field hfield d d' alike depth o cs cs' twins := by
    simp only [layout, List.mem_cons, List.not_mem_nil, or_false] at hfield
    rcases hfield with rfl | rfl
    · exact Layout.Twins.field same (fun _ _ => ⟨rfl, alike.2⟩) twins
    · exact Layout.Twins.field same (fun _ _ => ⟨alike.1, rfl⟩) twins
  shortens field hfield depth d d' cs rest ok := by
    simp only [layout, List.mem_cons, List.not_mem_nil, or_false] at hfield
    rcases hfield with rfl | rfl
    · exact Layout.field_length ok
    · exact Layout.field_length ok
  finish := by
    rintro ⟨username, password⟩ ⟨username', password'⟩ ⟨hu, hp⟩
    cases username <;> cases username' <;> cases hu
    · exact .error rfl
    · cases password <;> cases password' <;> cases hp
      · exact .error rfl
      · exact .ok trivial

/-! ## A literal among others -/

theorem exists_of_not_blank (h : ¬ Blank before) :
    ∃ b c t, before = b ++ c :: t ∧ Blank b ∧ isBlank c = false := by
  induction before with
  | nil => exact absurd blank_nil h
  | cons c before ih =>
    by_cases hc : isBlank c = true
    · obtain ⟨b, d, t, rfl, hb, hd⟩ := ih fun blank => h (List.forall_mem_cons.2 ⟨hc, blank⟩)
      exact ⟨c :: b, d, t, rfl, List.forall_mem_cons.2 ⟨hc, hb⟩, hd⟩
    · exact ⟨[], c, before, rfl, blank_nil, by simpa using hc⟩

theorem after_blank {b : List Char} (between : s.Between) (blank : Blank b) (cs : List Char) :
    s.after (b ++ cs) = s.after cs := by
  induction b with
  | nil => rfl
  | cons c b ih =>
    show (s.next c).after (b ++ cs) = _
    rw [Spot.next_blank between (blank c List.mem_cons_self)]
    exact ih fun d hd => blank d (List.mem_cons_of_mem _ hd)

theorem indistinct_of_not_blank (secret : String) (same : Interchangeable p q) (place : (Spot.start.after before).Free)
    (more : ¬ Blank before) (after : List Char) :
    Indistinct (ofSecret secret (withLiteral before p after)) (ofSecret secret (withLiteral before q after)) := by
  have whole : Twins p q .start _ _ := .around place after
  obtain ⟨b, c, t, rfl, blank, hc⟩ := exists_of_not_blank more
  rw [after_blank (s := .start) Spot.between_value blank] at place
  change ((Spot.start.next c).after t).Free at place
  have rest : Twins p q (Spot.start.next c) (t ++ '"' :: (p ++ '"' :: after)) (t ++ '"' :: (q ++ '"' :: after)) :=
    .around place after
  have head : ∀ literal, skipBlanks ((b ++ c :: t) ++ '"' :: (literal ++ '"' :: after)) =
      c :: (t ++ '"' :: (literal ++ '"' :: after)) := fun literal => by
    rw [List.append_assoc, skipBlanks_append blank]
    exact skipBlanks_cons hc _
  have alike := (layout_blind same).ofText_alike same whole (head p) (head q) rest
  unfold ofSecret withLiteral
  generalize layout.ofText _ = r at alike
  generalize layout.ofText _ = r' at alike
  cases alike with
  | error same => exact .refused (by rw [same])
  | ok => exact .read _ _

/-! ## A literal alone -/

/-- **A value that is nothing but a literal is quoted in the error.** -/
theorem ofSecret_bare (secret : String) (blank : Blank before) (plain : Plain p) (after : List Char) :
    ofSecret secret (withLiteral before p after) = .error (.secretAccess secret ("malformed secret payload: " ++
      (Fault.locate (before ++ '"' :: (p ++ '"' :: after))
        ⟨.wrongType (.string (String.ofList p)) "struct Secret", after, 0⟩).message)) := by
  have read : layout.read maxDepth (before ++ '"' :: (p ++ '"' :: after)) =
      .error ⟨.wrongType (.string (String.ofList p)) "struct Secret", after, 0⟩ := by
    unfold Layout.read
    rw [skipBlanks_append blank, skipBlanks_cons (by decide)]
    show wrongType "struct Secret" ('"' :: (p ++ '"' :: after)) = _
    unfold wrongType
    simp only [plain.readString]
    rfl
  unfold ofSecret Layout.ofText readAll withLiteral
  simp only [String.toList_ofList, read]
  rfl

theorem message_string (t expected : String) (place : Place) :
    (Misread.mk (.wrongType (.string t) expected) place).message =
      "invalid type: " ++ ("string " ++ Text.quoted t) ++ ", expected " ++ expected ++
        s!" at line {place.line} column {place.column}" := rfl

theorem message_secretAccess (secret reason : String) :
    (Error.secretAccess secret reason).message = "Failed to access secret " ++ secret ++ ": " ++ reason := rfl

theorem not_indistinct_of_blank (secret : String) (same : Interchangeable p q) (blank : Blank before)
    (differ : p ≠ q) (after : List Char) :
    ¬ Indistinct (ofSecret secret (withLiteral before p after)) (ofSecret secret (withLiteral before q after)) := by
  intro h
  have place : (Spot.start.after before).Free := by
    rw [← List.append_nil before, after_blank (s := .start) Spot.between_value blank]
    exact .inl rfl
  have whole : Twins p q .start _ _ := .around place after
  rw [ofSecret_bare secret blank same.left, ofSecret_bare secret blank same.right] at h
  cases h with
  | refused message =>
    unfold Fault.locate at message
    rw [← whole.byteLength_eq same, ← whole.advance same] at message
    simp only [message_secretAccess, message_string, String.append_left_inj, String.append_right_inj] at message
    exact differ (String.ofList_injective (Text.quoted_injective message))

/-- A bare password is told by the error. -/
theorem password_disclosed :
    Interchangeable "hunter2".toList "letmein".toList ∧ Spot.start.mode = .value ∧
      ¬ Indistinct (ofSecret "arn:secret" "\"hunter2\"") (ofSecret "arn:secret" "\"letmein\"") := by
  have same : Interchangeable "hunter2".toList "letmein".toList := ⟨by decide, by decide, by decide⟩
  exact ⟨same, rfl, not_indistinct_of_blank "arn:secret" same blank_nil (by decide) []⟩

/-- **The errors tell of a text only its length**, unless it is the whole value: two values that differ in one literal,
of the same number of bytes, are told apart by their errors exactly if nothing but blanks stands before the literal.
Nothing is asked of what stands around it, except that it is no key there and within no other literal. -/
theorem indistinct_iff (secret : String) (same : Interchangeable p q) (place : (Spot.start.after before).Free)
    (after : List Char) :
    Indistinct (ofSecret secret (withLiteral before p after)) (ofSecret secret (withLiteral before q after)) ↔
      ¬ Blank before ∨ p = q := by
  constructor
  · intro h
    by_cases blank : Blank before
    · exact .inr (by_contra fun differ => not_indistinct_of_blank secret same blank differ after h)
    · exact .inl blank
  · rintro (more | rfl)
    · exact indistinct_of_not_blank secret same place more after
    · cases ofSecret secret (withLiteral before p after) with
      | error e => exact .refused rfl
      | ok c => exact .read c c

/-- A password is not told by the error if the object around it is cut off. -/
theorem indistinct_iff_truncated :
    Interchangeable "hunter2".toList "letmein".toList ∧
      (Spot.start.after "\x7b\"username\": \"app\", \"password\": ".toList).Free ∧
      Indistinct (ofSecret "arn:secret" "\x7b\"username\": \"app\", \"password\": \"hunter2\"")
        (ofSecret "arn:secret" "\x7b\"username\": \"app\", \"password\": \"letmein\"") := by
  have same : Interchangeable "hunter2".toList "letmein".toList := ⟨by decide, by decide, by decide⟩
  have place : (Spot.start.after "\x7b\"username\": \"app\", \"password\": ".toList).Free := by decide
  exact ⟨same, place, (indistinct_iff "arn:secret" same place []).2 (.inl (by decide))⟩

end SearchDomain.Credential
