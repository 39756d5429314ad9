import SearchDomain.Proofs.Json.Twins.Tokens
/-!
# Twins/Records — records of twins

A record that makes nothing of its fields but that they are there (`Layout.Blind`) treats twins alike: both are read, or
both are refused with the same fault at the same place (`Layout.Blind.ofText_alike`), unless the literal stands in the
place of the record itself.
-/
namespace SearchDomain.Json

variable {α δ : Type} {p q : List Char} {s : Spot} {o : List Bracket} {c : Char} {cs cs' : List Char}

/-- Twins at some spot outside of literals, with these brackets open. -/
def Inside (p q : List Char) (opened : List Bracket) (cs cs' : List Char) : Prop :=
  ∃ mode, Spot.Between ⟨mode, opened⟩ ∧ Twins p q ⟨mode, opened⟩ cs cs'

theorem Twins.inside (h : Twins p q s cs cs') (between : s.Between) : Inside p q s.opened cs cs' := ⟨s.mode, between, h⟩

/-- Faults that are alike, or the same reason met before twins. -/
inductive Halt.Alike (p q : List Char) (opened : List Bracket) : Halt → Halt → Prop
  | placed {f f' : Fault} (alike : f.Alike f') : Alike p q opened (.placed f) (.placed f')
  | unplaced (reason : Reason) {rest rest' : List Char} (inside : Inside p q opened rest rest') :
      Alike p q opened (.unplaced reason rest) (.unplaced reason rest')

theorem Agree.lift {R : α → α → Prop} {a a' : Except Fault α} (h : Agrees R a a') :
    Agree (Halt.Alike p q o) R (Halt.lift a) (Halt.lift a') := by
  cases h with
  | error alike => exact .error (.placed alike)
  | ok alike => exact .ok alike

namespace Layout

/-- A record that looks at nothing in its fields: drafts that agree on which fields are there are treated alike. -/
structure Blind (p q : List Char) (layout : Layout δ α) (R : δ → δ → Prop) : Prop where
  blank : R layout.blank layout.blank
  filled : ∀ field ∈ layout.fields, ∀ {d d' : δ}, R d d' → field.filled d = field.filled d'
  read : ∀ field ∈ layout.fields, ∀ {d d' : δ}, R d d' → ∀ (depth : Nat) {o : List Bracket} {cs cs' : List Char},
    Twins p q ⟨.value, o⟩ cs cs' → Agrees (Leaves p q R ⟨.done, o⟩) (field.read depth d cs) (field.read depth d' cs')
  shortens : ∀ field ∈ layout.fields, ∀ (depth : Nat) {d d' : δ} {cs rest : List Char},
    field.read depth d cs = .ok (d', rest) → rest.length ≤ cs.length
  finish : ∀ {d d' : δ}, R d d' → Agree Eq (fun _ _ => True) (layout.finish d) (layout.finish d')

variable {layout : Layout δ α} {R : δ → δ → Prop} {depth fuel fuel' : Nat} {d d' : δ}

theorem readMember_length (blind : Blind p q layout R) {key : String} {rest : List Char}
    (h : layout.readMember depth d key cs = .ok (d', rest)) : rest.length ≤ cs.length := by
  unfold Layout.readMember at h
  split at h
  · rename_i field found
    split at h
    · cases h
    obtain ⟨left, hcolon, h⟩ := bind_eq_ok (mapError_eq_ok_iff.1 h)
    have := expectColon_length hcolon
    have := blind.shortens field (List.mem_of_find?_eq_some found) depth h
    omega
  · obtain ⟨left, hcolon, h⟩ := bind_eq_ok (mapError_eq_ok_iff.1 h)
    obtain ⟨left', hskip, h⟩ := bind_eq_ok h
    have := expectColon_length hcolon
    have := skipFrom_length hskip
    cases h
    omega

theorem Blind.readMember (blind : Blind p q layout R) (same : Interchangeable p q) (alike : R d d') (key : String)
    (h : Twins p q ⟨.done, o⟩ cs cs') :
    Agree (Halt.Alike p q o) (Leaves p q R ⟨.done, o⟩) (layout.readMember depth d key cs)
      (layout.readMember depth d' key cs') := by
  unfold Layout.readMember
  cases found : layout.fields.find? (·.name = key) with
  | none =>
    refine Agree.lift ((h.expectColon same Spot.between_done).bind fun left left' _ _ twins => ?_)
    exact (twins.skipValue same).bind fun _ _ _ _ twins => .ok ⟨alike, twins⟩
  | some field =>
    have hm := List.mem_of_find?_eq_some found
    simp only [← blind.filled field hm alike]
    split
    · exact .error (.unplaced _ (h.inside Spot.between_done))
    · exact Agree.lift ((h.expectColon same Spot.between_done).bind fun left left' _ _ twins =>
        blind.read field hm alike depth twins)

section
variable {name : String} {get : δ → Option String} {set : String → δ → δ} {omittable : Bool} {rest : List Char}

/-- Of a field that holds a text only is told that it is there. -/
theorem Twins.field (same : Interchangeable p q) (alike : ∀ x x', R (set x d) (set x' d'))
    (h : Twins p q ⟨.value, o⟩ cs cs') :
    Agrees (Leaves p q R ⟨.done, o⟩) ((Field.of name get set omittable fun _ => text).read depth d cs)
      ((Field.of name get set omittable fun _ => text).read depth d' cs') :=
  (h.text same Spot.between_value).map fun x x' left => ⟨alike x.1 x'.1, left.2⟩

theorem field_length (h : (Field.of name get set omittable fun _ => text).read depth d cs = .ok (d', rest)) :
    rest.length ≤ cs.length := by
  obtain ⟨x, read, he⟩ := map_eq_ok h
  cases he
  exact Nat.le_of_lt (text_length read)

end

/-- Drafts that are alike, and twins up to a bracket. -/
def Gathered (p q : List Char) (R : δ → δ → Prop) (opened : List Bracket) (x x' : δ × List Char) : Prop :=
  R x.1 x'.1 ∧ Inside p q opened x.2 x'.2

theorem Blind.readFields (blind : Blind p q layout R) (same : Interchangeable p q) (alike : R d d') {first : Bool}
    (h : Twins p q (.within first .object o) cs cs') (enough : cs.length < fuel) (enough' : cs'.length < fuel') :
    Agree (Halt.Alike p q (.object :: o)) (Gathered p q R (.object :: o)) (layout.readFields depth fuel first d cs)
      (layout.readFields depth fuel' first d' cs') := by
  induction fuel generalizing fuel' first d d' cs cs' with
  | zero => exact absurd enough (Nat.not_lt_zero _)
  | succ fuel ih =>
    obtain ⟨fuel', rfl⟩ := Nat.exists_eq_succ_of_ne_zero (Nat.ne_zero_of_lt enough')
    rw [Layout.readFields, Layout.readFields]
    refine (h.nextKey same).lift.bind fun x x' taken taken' onward => ?_
    cases onward with
    | closed twins => exact .ok ⟨alike, twins.inside (Spot.between_within first .object)⟩
    | more left left' twins =>
      have := nextKey_length (mapError_eq_ok_iff.1 taken)
      have := nextKey_length (mapError_eq_ok_iff.1 taken')
      refine (twins.readString same).lift.bind fun ⟨key, rest⟩ ⟨_, rest'⟩ read read' ⟨hkey, twins⟩ => ?_
      cases hkey
      have := readString_length (mapError_eq_ok_iff.1 read)
      have := readString_length (mapError_eq_ok_iff.1 read')
      refine (blind.readMember same alike key twins).bind fun ⟨d, last⟩ ⟨d', last'⟩ member member' ⟨alike, twins⟩ => ?_
      have : last.length ≤ rest.length := readMember_length blind member
      have : last'.length ≤ rest'.length := readMember_length blind member'
      exact ih alike twins (by omega) (by omega)

theorem Blind.readPositions (blind : Blind p q layout R) (same : Interchangeable p q) {fields : List (Field δ)}
    (sub : fields ⊆ layout.fields) (alike : R d d') {index : Nat}
    (h : Twins p q (.within (index == 0) .list o) cs cs') :
    Agree (Halt.Alike p q (.list :: o)) (Gathered p q R (.list :: o)) (layout.readPositions depth fields index d cs)
      (layout.readPositions depth fields index d' cs') := by
  induction fields generalizing index d d' cs cs' with
  | nil => exact .ok ⟨alike, h.inside (Spot.between_within _ .list)⟩
  | cons field fields ih =>
    rw [Layout.readPositions, Layout.readPositions]
    refine (h.nextItem same).lift.bind fun x x' _ _ onward => ?_
    cases onward with
    | closed twins =>
      have inside := twins.inside (Spot.between_within _ .list)
      simp only
      split
      · exact .error (.unplaced _ inside)
      · exact .ok ⟨alike, inside⟩
    | more left left' twins =>
      refine (blind.read field (sub List.mem_cons_self) alike depth twins).lift.bind
        fun ⟨d, rest⟩ ⟨d', rest'⟩ _ _ ⟨alike, twins⟩ => ?_
      exact ih (fun f hf => sub (List.mem_cons_of_mem _ hf)) alike twins

theorem Blind.complete (blind : Blind p q layout R) {a a' : Except Halt (δ × List Char)}
    (h : Agree (Halt.Alike p q o) (Gathered p q R o) a a') :
    Agree (Halt.Alike p q o) (fun x x' => Inside p q o x.2 x'.2) (layout.complete a) (layout.complete a') := by
  cases h with
  | error alike => exact .error alike
  | @ok x x' gathered =>
    obtain ⟨d, rest⟩ := x
    obtain ⟨d', rest'⟩ := x'
    obtain ⟨alike, inside⟩ := gathered
    have finish := blind.finish alike
    unfold Layout.complete
    simp only
    generalize layout.finish d = e at finish
    generalize layout.finish d' = e' at finish
    cases finish with
    | error same => exact same ▸ .error (.unplaced _ inside)
    | ok => exact .ok inside

/-- A bracket of which the closing tells nothing. -/
def ClosesAlike (p q : List Char) (bracket : Bracket) (close : List Char → Option Fault × List Char) : Prop :=
  ∀ {o : List Bracket} {cs cs' : List Char}, Inside p q (bracket :: o) cs cs' →
    Closing p q ⟨.done, o⟩ (close cs) (close cs')

theorem closed_alike (same : Interchangeable p q) {bracket : Bracket} {close : List Char → Option Fault × List Char}
    (closes : ClosesAlike p q bracket close) {a a' : Except Halt (α × List Char)}
    (h : Agree (Halt.Alike p q (bracket :: o)) (fun x x' => Inside p q (bracket :: o) x.2 x'.2) a a') :
    Agrees (Leaves p q (fun _ _ => True) ⟨.done, o⟩) (closed close a) (closed close a') := by
  cases h with
  | error alike =>
    cases alike with
    | placed alike => exact .error alike
    | unplaced reason inside => exact .error ⟨rfl, (closes inside).size same, rfl⟩
  | @ok x x' inside =>
    obtain ⟨x, rest⟩ := x
    obtain ⟨x', rest'⟩ := x'
    have closing := closes inside
    unfold closed
    simp only
    generalize close rest = e at closing
    generalize close rest' = e' at closing
    cases closing with
    | closed twins => exact .ok ⟨trivial, twins⟩
    | fault alike => exact .error alike

/-- **A record of twins is read alike**, unless the literal stands in its place. -/
theorem Blind.read_alike (blind : Blind p q layout R) (same : Interchangeable p q) (between : s.Between)
    {t t' : List Char} (head : skipBlanks cs = c :: t) (head' : skipBlanks cs' = c :: t')
    (rest : Twins p q (s.next c) t t') :
    Agrees (Leaves p q (fun _ _ => True) ⟨.done, s.opened⟩) (layout.read depth cs) (layout.read depth cs') := by
  have size : byteLength (c :: t) = byteLength (c :: t') := by
    rw [byteLength_cons, byteLength_cons, rest.byteLength_eq same]
  unfold Layout.read
  rw [head, head']
  by_cases list : c = '['
  · subst list
    cases depth with
    | zero => exact agrees_failNext _ size
    | succ depth =>
      rw [(Spot.next_open between).1] at rest
      exact closed_alike same (fun ⟨_, between, twins⟩ => twins.closeList same between)
        (blind.complete (blind.readPositions same (List.Subset.refl _) blind.blank rest))
  by_cases object : c = '{'
  · subst object
    cases depth with
    | zero => exact agrees_failNext _ size
    | succ depth =>
      rw [(Spot.next_open between).2] at rest
      exact closed_alike same (fun ⟨_, between, twins⟩ => twins.closeObject same between)
        (blind.complete (blind.readFields same blind.blank rest (Nat.lt_succ_self _)
          (Nat.lt_succ_self _)))
  simp only [List.cons.injEq, list, object, false_and, imp_self, implies_true]
  exact rest.wrongType same between _

end Layout

/-! ## Whole texts -/

/-- Within a line only the number of bytes counts. -/
theorem advance_line {cs : List Char} (line : ∀ c ∈ cs, c ≠ '\n') (place : Place) (rest : List Char) (count : Nat) :
    place.advance (cs ++ rest) count =
      if count ≤ byteLength cs then ⟨place.line, place.column + count⟩
      else Place.advance ⟨place.line, place.column + byteLength cs⟩ rest (count - byteLength cs) := by
  induction cs generalizing place count with
  | nil =>
    by_cases h : count ≤ byteLength []
    · obtain rfl : count = 0 := Nat.le_zero.1 h
      cases rest <;> simp [Place.advance]
    · rw [if_neg h]
      rfl
  | cons c cs ih =>
    have hc : c ≠ '\n' := line c List.mem_cons_self
    have hsize : 0 < c.utf8Size := c.utf8Size_pos
    rw [List.cons_append, Place.advance, byteLength_cons]
    by_cases zero : count = 0
    · simp [zero]
    by_cases short : count < c.utf8Size
    · rw [if_neg zero, if_pos short, if_pos (by omega)]
    rw [if_neg zero, if_neg short, if_neg hc, ih fun d hd => line d (List.mem_cons_of_mem _ hd)]
    by_cases within : count ≤ c.utf8Size + byteLength cs
    · rw [if_pos (by omega), if_pos within]
      congr 1
      simp only
      omega
    · rw [if_neg (by omega), if_neg within]
      simp only [Nat.sub_sub, Nat.add_assoc]

theorem Plain.line {cs : List Char} (h : Plain cs) : ∀ c ∈ '"' :: (cs ++ ['"']), c ≠ '\n' := by
  rintro c hc rfl
  simp only [List.mem_cons, List.mem_append, List.not_mem_nil, or_false, Char.reduceEq, false_or] at hc
  exact absurd (h _ hc).2.2 (by decide)

/-- The same number of bytes leads to the same place. -/
theorem Twins.advance (same : Interchangeable p q) (h : Twins p q s cs cs') (place : Place) (count : Nat) :
    place.advance cs count = place.advance cs' count := by
  induction h generalizing place count with
  | nil => rfl
  | char _ ih =>
    rw [Place.advance, Place.advance]
    split
    · rfl
    split
    · rfl
    · exact ih _ _
  | literal free after =>
    have left := advance_line same.left.line place after count
    have right := advance_line same.right.line place after count
    have size : byteLength ('"' :: (p ++ ['"'])) = byteLength ('"' :: (q ++ ['"'])) := by
      rw [byteLength_cons, byteLength_cons, byteLength_append, byteLength_append, same.size]
    simp only [List.cons_append, List.append_assoc, List.nil_append] at left right
    rw [left, right, size]

theorem Twins.locate (same : Interchangeable p q) (h : Twins p q s cs cs') {f f' : Fault} (alike : f.Alike f') :
    f.locate cs = f'.locate cs' := by
  obtain ⟨reason, rest, ahead⟩ := alike
  unfold Fault.locate
  rw [reason, rest, ahead, h.byteLength_eq same, h.advance same]

/-- **The texts of a record are told apart by nothing**, unless the literal stands in its place: either both are read,
or both are refused with the same fault at the same place. -/
theorem Layout.Blind.ofText_alike {layout : Layout δ α} {R : δ → δ → Prop} (blind : Layout.Blind p q layout R)
    (same : Interchangeable p q) {t t' : List Char} (whole : Twins p q .start cs cs') (head : skipBlanks cs = c :: t)
    (head' : skipBlanks cs' = c :: t') (rest : Twins p q (Spot.start.next c) t t') :
    Agree Eq (fun _ _ => True) (layout.ofText (String.ofList cs)) (layout.ofText (String.ofList cs')) := by
  have read : Agrees (Leaves p q (fun _ _ => True) ⟨.done, []⟩) (layout.read maxDepth cs) (layout.read maxDepth cs') :=
    blind.read_alike same Spot.between_value head head' rest
  unfold Layout.ofText readAll
  simp only [String.toList_ofList]
  refine Agree.mapError (read.bind fun x x' _ _ alike => ?_) fun _ _ alike => whole.locate same alike
  obtain ⟨x, left⟩ := x
  obtain ⟨x', left'⟩ := x'
  have twins : Twins p q ⟨.done, []⟩ (skipBlanks left) (skipBlanks left') := alike.2.skipBlanks Spot.between_done
  have size := twins.byteLength_eq same
  simp only
  generalize skipBlanks left = ds at twins size
  generalize skipBlanks left' = ds' at twins size
  cases twins with
  | nil => exact .ok trivial
  | char => exact agrees_failNext _ size
  | literal => exact agrees_failNext _ size

end SearchDomain.Json
