import SearchDomain.Proofs.Json.Passing
/-!
# Gathering — records are read member by member

What a member does to the draft of a record depends on its key and the text of its value (`Takes`), and a whole object
does what its members do one after the other (`Gathers`). The text of an object is read as a record exactly when its
members can be gathered into a draft that is complete (`Gathers.ofText`, `gathers_of_ofText`). They can be if each field
that occurs does so once and is read (`gathers_of_due`), and a field then holds what they say of it (`Gathers.held`).
What a change of the draft means for the fields that it does not touch is told once for all records
(`Gathers.commutes`).
-/
namespace SearchDomain.Json

variable {δ α β : Type} {layout : Layout δ α} {depth fuel : Nat} {draft draft' : δ} {first : Bool} {key : String}
  {cs value rest : List Char} {member : String × List Char} {members : List (String × List Char)}

namespace Layout

/-- What stands before the value of a field means nothing to the record. -/
def SkipsBlanks (layout : Layout δ α) : Prop :=
  ∀ field ∈ layout.fields, ∀ depth draft, Json.SkipsBlanks (field.read depth draft)

/-- A member takes a draft to the next one: a field that was empty, or a value that nobody asked for. -/
inductive Takes (layout : Layout δ α) (depth : Nat) (draft : δ) : String × List Char → δ → Prop
  | known {key : String} {value : List Char} {draft' : δ} {field : Field δ}
      (found : layout.fields.find? (·.name = key) = some field) (empty : field.filled draft = false)
      (reads : Reads (field.read depth draft) value draft') : Takes layout depth draft (key, value) draft'
  | unknown {key : String} {value : List Char} (missing : layout.fields.find? (·.name = key) = none)
      (text : ValueText value) : Takes layout depth draft (key, value) draft

/-- Members take a draft to the last one, one after the other. -/
inductive Gathers (layout : Layout δ α) (depth : Nat) : δ → List (String × List Char) → δ → Prop
  | nil (draft : δ) : Gathers layout depth draft [] draft
  | cons {draft draft' draft'' : δ} {member : String × List Char} {members : List (String × List Char)}
      (first : Takes layout depth draft member draft') (rest : Gathers layout depth draft' members draft'') :
      Gathers layout depth draft (member :: members) draft''

/-- A member whose value each reader takes or refuses, whatever follows. -/
def SettledMember (layout : Layout δ α) (depth : Nat) (member : String × List Char) : Prop :=
  ValueText member.2 ∧ ∀ field ∈ layout.fields, field.name = member.1 →
    ∀ draft, Settled (field.read depth draft) member.2

theorem Takes.readMember (takes : Takes layout depth draft (key, value) draft') (skips : layout.SkipsBlanks)
    {b b' : List Char} (beforeColon : Blank b) (beforeValue : Blank b') (delimited : Delimited rest) :
    layout.readMember depth draft key (b ++ ':' :: (b' ++ (value ++ rest))) = .ok (draft', rest) := by
  unfold Layout.readMember
  cases takes with
  | @known _ _ _ field found empty reads =>
    rw [found]
    simp only [empty, Bool.false_eq_true, if_false]
    rw [expectColon_colon beforeColon]
    show Halt.lift (field.read depth draft (b' ++ (value ++ rest))) = _
    rw [skips field (List.mem_of_find?_eq_some found) depth draft beforeValue, reads rest delimited]
    rfl
  | unknown missing text =>
    rw [missing, expectColon_colon beforeColon]
    show Halt.lift (skipValue (b' ++ (value ++ rest)) >>= _) = _
    rw [skipValue_value beforeValue text delimited]
    rfl

/-- One member of a record is read, then the others. -/
theorem readFields_member {b b' name tail : List Char} (before : Blank b) (beforeKey : Blank b')
    (literal : Literal key name) :
    layout.readFields depth (fuel + 1) first draft (b ++ (separator first ++ (b' ++ (name ++ tail)))) =
      layout.readMember depth draft key tail >>= fun (draft, rest) =>
        layout.readFields depth fuel false draft rest := by
  obtain ⟨unread, left, hnext, hkey⟩ := nextKey_literal first before beforeKey literal tail
  rw [Layout.readFields, hnext]
  show (Halt.lift (readString unread) >>= _) = _
  rw [hkey]
  rfl

theorem readFields_bracket {b : List Char} (blank : Blank b) (rest : List Char) :
    layout.readFields depth (fuel + 1) first draft (b ++ ('}' :: rest)) = .ok (draft, '}' :: rest) := by
  rw [Layout.readFields, nextKey_bracket blank]
  rfl

theorem Gathers.readFields (gathers : Gathers layout depth draft members draft') (skips : layout.SkipsBlanks)
    (h : MembersText first members cs) (enough : members.length < fuel) (rest : List Char) :
    layout.readFields depth fuel first draft (cs ++ rest) = .ok (draft', '}' :: rest) := by
  induction h generalizing draft fuel with
  | close blank =>
    cases gathers
    obtain ⟨fuel, rfl⟩ := Nat.exists_eq_succ_of_ne_zero (Nat.ne_of_gt enough)
    rw [List.append_assoc]
    exact readFields_bracket blank rest
  | member before beforeKey literal beforeColon beforeValue tail ih =>
    cases gathers with
    | cons takes others =>
      obtain ⟨fuel, rfl⟩ := Nat.exists_eq_succ_of_ne_zero (Nat.ne_zero_of_lt enough)
      simp only [List.append_assoc, List.cons_append]
      rw [readFields_member before beforeKey literal,
        takes.readMember skips beforeColon beforeValue (tail.delimited rest)]
      exact ih others (Nat.lt_of_succ_lt_succ enough)

/-- A settled member is taken, or refused whatever stands around it. -/
theorem takes_or_halts (skips : layout.SkipsBlanks) (settled : layout.SettledMember depth (key, value)) (draft : δ) :
    (∃ draft', Takes layout depth draft (key, value) draft') ∨ ∀ {b b' rest : List Char}, Blank b → Blank b' →
      Delimited rest → ∃ halt, layout.readMember depth draft key (b ++ ':' :: (b' ++ (value ++ rest))) =
        .error halt := by
  cases found : layout.fields.find? (·.name = key) with
  | none => exact .inl ⟨draft, .unknown found settled.1⟩
  | some field =>
    have hmem := List.mem_of_find?_eq_some found
    have hname : field.name = key := by simpa using List.find?_some found
    cases hfilled : field.filled draft with
    | true =>
      refine .inr fun _ _ _ => ?_
      unfold Layout.readMember
      rw [found]
      simp only [hfilled, if_true]
      exact ⟨_, rfl⟩
    | false =>
      rcases settled.2 field hmem hname draft with ⟨draft', reads⟩ | refuses
      · exact .inl ⟨draft', .known found hfilled reads⟩
      · refine .inr fun {b b' rest} beforeColon beforeValue delimited => ?_
        obtain ⟨fault, he⟩ := refuses rest delimited
        refine ⟨.placed fault, ?_⟩
        unfold Layout.readMember
        rw [found]
        simp only [hfilled, Bool.false_eq_true, if_false]
        rw [expectColon_colon beforeColon]
        show Halt.lift (field.read depth draft (b' ++ (value ++ rest))) = _
        rw [skips field hmem depth draft beforeValue, he]
        rfl

theorem gathers_or_halts (skips : layout.SkipsBlanks) (h : MembersText first members cs)
    (settled : ∀ member ∈ members, layout.SettledMember depth member) (draft : δ) :
    (∃ draft', Gathers layout depth draft members draft') ∨
      ∀ fuel rest, ∃ halt, layout.readFields depth fuel first draft (cs ++ rest) = .error halt := by
  induction h generalizing draft with
  | close => exact .inl ⟨draft, .nil draft⟩
  | @member first b b' g w name value cs key members before beforeKey literal beforeColon beforeValue tail ih =>
    have step : ∀ fuel rest, layout.readFields depth (fuel + 1) first draft
          (b ++ (separator first ++ (b' ++ (name ++ (g ++ ':' :: (w ++ (value ++ cs)))))) ++ rest) =
        layout.readMember depth draft key (g ++ ':' :: (w ++ (value ++ (cs ++ rest)))) >>=
          fun (draft, rest) => layout.readFields depth fuel false draft rest := by
      intro fuel rest
      simp only [List.append_assoc, List.cons_append]
      exact readFields_member before beforeKey literal
    have halted : (∀ fuel rest, ∃ halt, (layout.readMember depth draft key
          (g ++ ':' :: (w ++ (value ++ (cs ++ rest)))) >>=
            fun (draft, rest) => layout.readFields depth fuel false draft rest) = .error halt) →
        ∀ fuel rest, ∃ halt, layout.readFields depth fuel first draft
          (b ++ (separator first ++ (b' ++ (name ++ (g ++ ':' :: (w ++ (value ++ cs)))))) ++ rest) =
            .error halt := by
      intro h fuel rest
      cases fuel with
      | zero => exact ⟨_, rfl⟩
      | succ fuel =>
        obtain ⟨halt, he⟩ := h fuel rest
        exact ⟨halt, (step fuel rest).trans he⟩
    rcases takes_or_halts skips (settled _ List.mem_cons_self) draft with ⟨mid, takes⟩ | halts
    · rcases ih (fun m hm => settled m (List.mem_cons_of_mem _ hm)) mid with ⟨draft', others⟩ | halts
      · exact .inl ⟨draft', .cons takes others⟩
      · refine .inr (halted fun fuel rest => ?_)
        rw [takes.readMember skips beforeColon beforeValue (tail.delimited rest)]
        exact halts fuel rest
    · refine .inr (halted fun fuel rest => ?_)
      obtain ⟨halt, he⟩ := halts beforeColon beforeValue (tail.delimited rest)
      rw [he]
      exact ⟨halt, rfl⟩

/-! ## Whole records -/

theorem Gathers.append {before after : List (String × List Char)} {draft'' : δ}
    (gathers : Gathers layout depth draft before draft') (rest : Gathers layout depth draft' after draft'') :
    Gathers layout depth draft (before ++ after) draft'' := by
  induction gathers with
  | nil => exact rest
  | cons first _ ih => exact .cons first (ih rest)

theorem gathers_append_iff {before after : List (String × List Char)} :
    Gathers layout depth draft (before ++ after) draft' ↔
      ∃ mid, Gathers layout depth draft before mid ∧ Gathers layout depth mid after draft' := by
  constructor
  · intro h
    induction before generalizing draft with
    | nil => exact ⟨draft, .nil draft, h⟩
    | cons member before ih =>
      cases h with
      | cons first rest =>
        obtain ⟨mid, hbefore, hafter⟩ := ih rest
        exact ⟨mid, .cons first hbefore, hafter⟩
  · rintro ⟨mid, hbefore, hafter⟩
    exact hbefore.append hafter

theorem complete_ok {x : α} (finish : layout.finish draft = .ok x) (left : List Char) :
    layout.complete (.ok (draft, left)) = .ok (x, left) := by
  unfold complete
  simp only [finish]

theorem complete_missing {name : String} (finish : layout.finish draft = .error name) (left : List Char) :
    layout.complete (.ok (draft, left)) = .error (.unplaced (.missingField name) left) := by
  unfold complete
  simp only [finish]

theorem read_object (layout : Layout δ α) (depth : Nat) (cs : List Char) : layout.read (depth + 1) ('{' :: cs) =
    closed closeObject (layout.complete (layout.readFields depth (cs.length + 1) true layout.blank cs)) := rfl

/-- An object that can be gathered and completed is a record, whatever follows it. -/
theorem Gathers.read (gathers : Gathers layout depth layout.blank members draft) (skips : layout.SkipsBlanks)
    (h : ObjectText members cs) {x : α} (finish : layout.finish draft = .ok x) (rest : List Char) :
    layout.read (depth + 1) (cs ++ rest) = .ok (x, rest) := by
  cases h with
  | @brackets cs inside =>
    rw [List.cons_append, read_object, gathers.readFields skips inside (inside.enough rest), complete_ok finish]
    rfl

theorem Gathers.reads (gathers : Gathers layout depth layout.blank members draft) (skips : layout.SkipsBlanks)
    (h : ObjectText members cs) {x : α} (finish : layout.finish draft = .ok x) : Reads (layout.read (depth + 1)) cs x :=
  fun rest _ => gathers.read skips h finish rest

/-- An object is gathered and completed, or it is refused whatever follows it. -/
theorem gathers_or_refuses (skips : layout.SkipsBlanks) (h : ObjectText members cs)
    (settled : ∀ member ∈ members, layout.SettledMember depth member) :
    (∃ draft x, Gathers layout depth layout.blank members draft ∧ layout.finish draft = .ok x) ∨
      ∀ rest, ∃ fault, layout.read (depth + 1) (cs ++ rest) = .error fault := by
  cases h with
  | @brackets cs inside =>
    rcases gathers_or_halts skips inside settled layout.blank with ⟨draft, gathers⟩ | halts
    · cases finish : layout.finish draft with
      | ok x => exact .inl ⟨draft, x, gathers, finish⟩
      | error name =>
        refine .inr fun rest => ?_
        rw [List.cons_append, read_object, gathers.readFields skips inside (inside.enough rest),
          complete_missing finish]
        exact ⟨_, rfl⟩
    · refine .inr fun rest => ?_
      obtain ⟨halt, he⟩ := halts ((cs ++ rest).length + 1) rest
      rw [List.cons_append, read_object, he]
      exact ⟨_, rfl⟩

theorem gathers_of_read (skips : layout.SkipsBlanks) (h : ObjectText members cs)
    (settled : ∀ member ∈ members, layout.SettledMember depth member) {x : α} {rest' : List Char}
    (ok : layout.read (depth + 1) (cs ++ rest) = .ok (x, rest')) :
    ∃ draft, Gathers layout depth layout.blank members draft ∧ layout.finish draft = .ok x ∧ rest' = rest := by
  rcases gathers_or_refuses skips h settled with ⟨draft, y, gathers, finish⟩ | refused
  · cases (gathers.read skips h finish rest).symm.trans ok
    exact ⟨draft, gathers, finish, rfl⟩
  · obtain ⟨fault, he⟩ := refused rest
    cases he.symm.trans ok

/-- **The text of an object is a record, or is refused**, whatever follows. -/
theorem settled_read (skips : layout.SkipsBlanks) (h : ObjectText members cs)
    (settled : ∀ member ∈ members, layout.SettledMember depth member) : Settled (layout.read (depth + 1)) cs := by
  rcases gathers_or_refuses skips h settled with ⟨draft, x, gathers, finish⟩ | refused
  · exact .inl ⟨x, gathers.reads skips h finish⟩
  · exact .inr fun rest _ => refused rest

theorem read_skipsBlanks (layout : Layout δ α) (depth : Nat) : Json.SkipsBlanks (layout.read depth) :=
  fun blank cs => by
    unfold Layout.read
    rw [skipBlanks_append blank]

/-- What a record is read from may have blanks around it. -/
theorem ofText_of_reads {x : α} (reads : Reads (layout.read maxDepth) cs x) {b b' : List Char} (before : Blank b)
    (after : Blank b') : layout.ofText (String.ofList (b ++ (cs ++ b'))) = .ok x := by
  unfold Layout.ofText
  rw [readAll_eq_ok_iff, String.toList_ofList, read_skipsBlanks layout maxDepth before]
  exact ⟨b', reads b' after.delimited_end, skipBlanks_eq_nil after⟩

/-- A settled text that is decoded with blanks around it is read by itself. -/
theorem reads_of_ofText (settled : Settled (layout.read maxDepth) cs) {b b' : List Char} (before : Blank b)
    (after : Blank b') {x : α} (ok : layout.ofText (String.ofList (b ++ (cs ++ b'))) = .ok x) :
    Reads (layout.read maxDepth) cs x := by
  rcases settled with ⟨y, reads⟩ | refuses
  · cases (ofText_of_reads reads before after).symm.trans ok
    exact reads
  · unfold Layout.ofText at ok
    rw [readAll_eq_ok_iff, String.toList_ofList, read_skipsBlanks layout maxDepth before] at ok
    obtain ⟨rest, hread, -⟩ := ok
    obtain ⟨fault, he⟩ := refuses b' after.delimited_end
    cases he.symm.trans hread

/-- **A text whose members can be gathered into a complete draft is read** as that record. -/
theorem Gathers.ofText (gathers : Gathers layout (maxDepth - 1) layout.blank members draft) (skips : layout.SkipsBlanks)
    (h : ObjectText members cs) {b b' : List Char} (before : Blank b) (after : Blank b') {x : α}
    (finish : layout.finish draft = .ok x) : layout.ofText (String.ofList (b ++ (cs ++ b'))) = .ok x :=
  ofText_of_reads (gathers.reads skips h finish) before after

/-- **A text that is read as a record has been gathered** from its members. -/
theorem gathers_of_ofText (skips : layout.SkipsBlanks) (h : ObjectText members cs)
    (settled : ∀ member ∈ members, layout.SettledMember (maxDepth - 1) member) {b b' : List Char} (before : Blank b)
    {x : α} (ok : layout.ofText (String.ofList (b ++ (cs ++ b'))) = .ok x) :
    ∃ draft, Gathers layout (maxDepth - 1) layout.blank members draft ∧ layout.finish draft = .ok x := by
  unfold Layout.ofText at ok
  rw [readAll_eq_ok_iff, String.toList_ofList, read_skipsBlanks layout maxDepth before] at ok
  obtain ⟨rest, hread, -⟩ := ok
  obtain ⟨draft, gathers, finish, -⟩ := gathers_of_read skips h settled hread
  exact ⟨draft, gathers, finish⟩

/-! ## Changes of a draft -/

/-- A change of the draft and a field know nothing of each other. -/
structure Commutes (change : δ → δ) (field : Field δ) : Prop where
  filled : ∀ draft, field.filled (change draft) = field.filled draft
  read : ∀ depth draft cs,
    field.read depth (change draft) cs = (field.read depth draft cs).map fun (draft, rest) => (change draft, rest)

theorem commutes_of {name : String} {get : δ → Option β} {set : β → δ → δ} {omittable : Bool}
    {read : Nat → Reader β} {change : δ → δ} (get_change : ∀ draft, get (change draft) = get draft)
    (set_change : ∀ x draft, set x (change draft) = change (set x draft)) :
    Commutes change (Field.of name get set omittable read) where
  filled draft := congrArg Option.isSome (get_change draft)
  read depth draft cs := by
    show (read depth cs).map _ = ((read depth cs).map _).map _
    cases read depth cs with
    | error fault => rfl
    | ok taken =>
      show Except.ok (set taken.1 (change draft), taken.2) = _
      rw [set_change]
      rfl

theorem Takes.commutes (takes : Takes layout depth draft member draft') {change : δ → δ}
    (commutes : ∀ field ∈ layout.fields, field.name = member.1 → Commutes change field) :
    Takes layout depth (change draft) member (change draft') := by
  cases takes with
  | @known key value _ field found empty reads =>
    have hname : field.name = key := by simpa using List.find?_some found
    have hcommutes := commutes field (List.mem_of_find?_eq_some found) hname
    refine .known found ((hcommutes.filled draft).trans empty) fun rest delimited => ?_
    rw [hcommutes.read, reads rest delimited]
    rfl
  | unknown missing text => exact .unknown missing text

/-- **A change that the fields of the members know nothing of** can be made before them or after them. -/
theorem Gathers.commutes (gathers : Gathers layout depth draft members draft') {change : δ → δ}
    (commutes : ∀ member ∈ members, ∀ field ∈ layout.fields, field.name = member.1 → Commutes change field) :
    Gathers layout depth (change draft) members (change draft') := by
  induction gathers with
  | nil => exact .nil _
  | cons first _ ih =>
    exact .cons (first.commutes (commutes _ List.mem_cons_self))
      (ih fun member hm => commutes member (List.mem_cons_of_mem _ hm))

/-- A field leaves a part of the draft as it is. -/
def Keeps (part : δ → β) (field : Field δ) : Prop :=
  ∀ depth draft draft' cs rest, field.read depth draft cs = .ok (draft', rest) → part draft' = part draft

theorem keeps_of {γ : Type} {name : String} {get : δ → Option β} {set : β → δ → δ} {omittable : Bool}
    {read : Nat → Reader β} {part : δ → γ} (part_set : ∀ x draft, part (set x draft) = part draft) :
    Keeps part (Field.of name get set omittable read) := by
  intro depth draft draft' cs rest ok
  obtain ⟨taken, -, he⟩ := map_eq_ok ok
  cases he
  exact part_set taken.1 draft

theorem Gathers.keeps (gathers : Gathers layout depth draft members draft') {part : δ → β}
    (keeps : ∀ member ∈ members, ∀ field ∈ layout.fields, field.name = member.1 → Keeps part field) :
    part draft' = part draft := by
  induction gathers with
  | nil => rfl
  | cons first _ ih =>
    rw [ih fun member hm => keeps member (List.mem_cons_of_mem _ hm)]
    cases first with
    | @known key value _ field found _ reads =>
      have hname : field.name = key := by simpa using List.find?_some found
      exact keeps _ List.mem_cons_self field (List.mem_of_find?_eq_some found) hname _ _ _ _ _ (reads [] delimited_nil)
    | unknown => rfl

/-! ## The member of a field -/

section
variable {name : String} {get : δ → Option β} {set : β → δ → δ} {omittable : Bool} {read : Nat → Reader β} {x : β}

/-- What a field holds no other member replaces. -/
theorem Gathers.holding (gathers : Gathers layout depth draft members draft')
    (found : layout.fields.find? (·.name = name) = some (.of name get set omittable read))
    (others : ∀ field ∈ layout.fields, field.name ≠ name → Keeps get field) (holds : get draft = some x) :
    get draft' = some x := by
  induction gathers with
  | nil => exact holds
  | cons first _ ih =>
    refine ih ?_
    cases first with
    | @known key value draft' field found' empty reads =>
      have hname : field.name = key := by simpa using List.find?_some found'
      by_cases same : key = name
      · subst same
        cases found.symm.trans found'
        exact absurd (Option.isSome_of_eq_some holds) (ne_true_of_eq_false empty)
      · have keeps := others field (List.mem_of_find?_eq_some found') (hname ▸ same)
        exact (keeps _ _ _ _ _ (reads [] delimited_nil)).trans holds
    | unknown => exact holds

/-- A field that is read from a text holds what the text is read as. -/
theorem reads_of_field (get_set : ∀ x draft, get (set x draft) = some x)
    (reads : Reads ((Field.of name get set omittable read).read depth draft) value draft') :
    ∃ x, Reads (read depth) value x ∧ get draft' = some x := by
  -- what follows makes no difference to the draft, and the draft tells what was read
  have taken : ∀ tail, Delimited tail →
      ∃ x, read depth (value ++ tail) = .ok (x, tail) ∧ set x draft = draft' := fun tail delimited => by
    obtain ⟨⟨x, left⟩, hread, he⟩ := map_eq_ok (reads tail delimited)
    cases he
    exact ⟨x, hread, rfl⟩
  obtain ⟨x, -, hx⟩ := taken [] delimited_nil
  refine ⟨x, fun tail delimited => ?_, hx ▸ get_set x draft⟩
  obtain ⟨y, hread, hy⟩ := taken tail delimited
  have same : some y = some x := by rw [← get_set y draft, ← get_set x draft, hx, hy]
  rw [hread, Option.some.inj same]

/-- **A field holds what its member is read as.** -/
theorem Gathers.holds (get : δ → Option β) (gathers : Gathers layout depth draft members draft')
    (found : layout.fields.find? (·.name = name) = some (.of name get set omittable read))
    (others : ∀ field ∈ layout.fields, field.name ≠ name → Keeps get field)
    (get_set : ∀ x draft, get (set x draft) = some x) (hm : (name, value) ∈ members) :
    ∃ x, Reads (read depth) value x ∧ get draft' = some x := by
  induction gathers with
  | nil => cases hm
  | @cons draft mid draft' member members first rest ih =>
    rcases List.mem_cons.1 hm with rfl | hm
    · cases first with
      | unknown missing => cases found.symm.trans missing
      | known found' empty reads =>
        cases found.symm.trans found'
        obtain ⟨x, taken, holds⟩ := reads_of_field get_set reads
        exact ⟨x, taken, rest.holding found others holds⟩
    · exact ih hm

theorem filter_cons_other (other : member.1 ≠ name) :
    (member :: members).filter (fun m => m.1 = name) = members.filter fun m => m.1 = name :=
  List.filter_cons_of_neg (by simpa using other)

theorem filter_cons_same (name : String) (value : List Char) : ((name, value) :: members).filter (fun m => m.1 = name) =
    (name, value) :: members.filter fun m => m.1 = name := List.filter_cons_of_pos (by simp)

theorem mem_of_filter (occurs : members.filter (fun m => m.1 = name) = [(name, value)]) : (name, value) ∈ members := by
  have hm : (name, value) ∈ members.filter fun m => m.1 = name := occurs ▸ List.mem_cons_self
  exact List.mem_of_mem_filter hm

/-- A field that is there already does not occur again. -/
theorem Gathers.not_again (gathers : Gathers layout depth draft members draft')
    (found : layout.fields.find? (·.name = name) = some (.of name get set omittable read))
    (others : ∀ field ∈ layout.fields, field.name ≠ name → Keeps get field) (holds : get draft = some x) :
    members.filter (fun m => m.1 = name) = [] := by
  induction gathers with
  | nil => rfl
  | @cons draft mid draft' member members first _ ih =>
    by_cases same : member.1 = name
    · obtain ⟨key, value⟩ := member
      obtain rfl : key = name := same
      cases first with
      | known found' empty =>
        cases found.symm.trans found'
        exact absurd (Option.isSome_of_eq_some holds) (ne_true_of_eq_false empty)
      | unknown missing => cases found.symm.trans missing
    · rw [filter_cons_other same]
      exact ih ((Gathers.cons first (.nil mid)).holding found others holds)

/-- What the members say of a field: it does not occur, or it occurs once and is read. -/
def Held (members : List (String × List Char)) (name : String) (read : Reader β) : Option β → Prop
  | none => members.filter (fun m => m.1 = name) = []
  | some x => ∃ value, members.filter (fun m => m.1 = name) = [(name, value)] ∧ Reads read value x

theorem Held.cons_other {reader : Reader β} {held : Option β} (h : Held members name reader held)
    (other : member.1 ≠ name) : Held (member :: members) name reader held := by
  unfold Held at h ⊢
  rwa [filter_cons_other other]

theorem Held.unique {reader : Reader β} {held held' : Option β} (h : Held members name reader held)
    (h' : Held members name reader held') : held = held' := by
  unfold Held at h h'
  cases held with
  | none =>
    cases held' with
    | none => rfl
    | some y =>
      obtain ⟨value, occurs, -⟩ := h'
      cases h.symm.trans occurs
  | some x =>
    obtain ⟨value, occurs, reads⟩ := h
    cases held' with
    | none => cases h'.symm.trans occurs
    | some y =>
      obtain ⟨value', occurs', reads'⟩ := h'
      cases occurs.symm.trans occurs'
      exact congrArg some (reads.unique reads')

/-- **A field that was not there holds what the members say of it**, in which it occurs at most once. -/
theorem Gathers.held (get : δ → Option β) (gathers : Gathers layout depth draft members draft')
    (found : layout.fields.find? (·.name = name) = some (.of name get set omittable read))
    (others : ∀ field ∈ layout.fields, field.name ≠ name → Keeps get field)
    (get_set : ∀ x draft, get (set x draft) = some x) (absent : get draft = none) :
    Held members name (read depth) (get draft') := by
  induction gathers with
  | nil =>
    rw [absent]
    rfl
  | @cons draft mid draft' member members first rest ih =>
    have alone := Gathers.cons first (.nil mid)
    by_cases same : member.1 = name
    · obtain ⟨key, value⟩ := member
      obtain rfl : key = name := same
      obtain ⟨x, reads, hmid⟩ := alone.holds get found others get_set List.mem_cons_self
      rw [rest.holding found others hmid]
      refine ⟨value, ?_, reads⟩
      rw [filter_cons_same, rest.not_again found others hmid]
    · have kept : get mid = get draft := alone.keeps fun m hm field hfield hname => by
        obtain rfl := List.mem_singleton.1 hm
        exact others field hfield (hname ▸ same)
      exact (ih (kept.trans absent)).cons_other same

/-- A field that the members can still give: it does not occur, or it occurs once, where the draft has none yet, and is
read. -/
def Due (depth : Nat) (draft : δ) (members : List (String × List Char)) (field : Field δ) : Prop :=
  members.filter (fun m => m.1 = field.name) = [] ∨ field.filled draft = false ∧
    ∃ value, members.filter (fun m => m.1 = field.name) = [(field.name, value)] ∧
      ∀ draft, ∃ draft', Reads (field.read depth draft) value draft'

theorem Held.due {held : Option β} (h : Held members name (read depth) held) (absent : get draft = none) :
    Due depth draft members (.of name get set omittable read) := by
  cases held with
  | none => exact .inl h
  | some x =>
    obtain ⟨value, occurs, reads⟩ := h
    exact .inr ⟨congrArg Option.isSome absent, value, occurs, fun draft => ⟨_, reads.map fun x => set x draft⟩⟩

/-- **Members that give each field that is due can be gathered.** -/
theorem gathers_of_due (values : ∀ member ∈ members, ValueText member.2)
    (keeps : ∀ f ∈ layout.fields, ∀ g ∈ layout.fields, f.name ≠ g.name → Keeps f.filled g)
    (due : ∀ field ∈ layout.fields, Due depth draft members field) :
    ∃ draft', Gathers layout depth draft members draft' := by
  induction members generalizing draft with
  | nil => exact ⟨draft, .nil draft⟩
  | cons member members ih =>
    obtain ⟨key, value⟩ := member
    have values' := fun m hm => values m (List.mem_cons_of_mem _ hm)
    cases found : layout.fields.find? (·.name = key) with
    | none =>
      have others : ∀ field ∈ layout.fields, Due depth draft members field := fun field hfield => by
        have other : ¬ key = field.name := fun he => by
          simpa [he] using List.find?_eq_none.1 found field hfield
        have due' := due field hfield
        unfold Due at due' ⊢
        rwa [filter_cons_other other] at due'
      obtain ⟨draft', gathers⟩ := ih values' others
      exact ⟨draft', .cons (.unknown found (values _ List.mem_cons_self)) gathers⟩
    | some field =>
      have hfield := List.mem_of_find?_eq_some found
      obtain rfl : field.name = key := by simpa using List.find?_some found
      rcases due field hfield with none | ⟨empty, value', occurs, reads⟩
      · cases (filter_cons_same field.name value).symm.trans none
      obtain ⟨he, rest⟩ := List.cons.inj ((filter_cons_same field.name value).symm.trans occurs)
      cases he
      obtain ⟨mid, taken⟩ := reads draft
      have others : ∀ g ∈ layout.fields, Due depth mid members g := fun g hg => by
        by_cases same : g.name = field.name
        · exact .inl (same ▸ rest)
        · have due' := due g hg
          unfold Due at due' ⊢
          rwa [filter_cons_other (Ne.symm same),
            ← keeps g hg field hfield same _ _ _ _ _ (taken [] delimited_nil)] at due'
      obtain ⟨draft', gathers⟩ := ih values' others
      exact ⟨draft', .cons (.known found empty taken) gathers⟩

end

end Layout

/-! ## Fields -/

theorem Settled.field {name : String} {get : δ → Option β} {set : β → δ → δ} {omittable : Bool} {read : Nat → Reader β}
    (settled : Settled (read depth) cs) (draft : δ) :
    Settled ((Field.of name get set omittable read).read depth draft) cs := settled.map fun x => set x draft

theorem SkipsBlanks.field {name : String} {get : δ → Option β} {set : β → δ → δ} {omittable : Bool}
    {read : Nat → Reader β} (skips : SkipsBlanks (read depth)) (draft : δ) :
    SkipsBlanks ((Field.of name get set omittable read).read depth draft) := fun blank cs =>
  congrArg (Except.map _) (skips blank cs)

/-- A member goes to its field, if that has none yet. -/
theorem Layout.takes_of {name : String} {get : δ → Option β} {set : β → δ → δ} {omittable : Bool}
    {read : Nat → Reader β} {x : β}
    (found : layout.fields.find? (·.name = key) = some (.of name get set omittable read))
    (empty : get draft = none) (reads : Reads (read depth) value x) :
    layout.Takes depth draft (key, value) (set x draft) :=
  .known found (congrArg Option.isSome empty) (reads.map fun x => set x draft)

theorem sequence_skipsBlanks (read : Nat → Reader α) (depth : Nat) : SkipsBlanks (sequence depth read) :=
  fun blank cs => by
    unfold sequence
    rw [skipBlanks_append blank]

/-- A list of records, or of anything else, is read as its items are. -/
theorem reads_sequence {read : Nat → Reader α} {items : List (List Char)} {xs : List α} (h : ArrayText items cs)
    (begins : ∀ item ∈ items, Begins item) (reads : List.Forall₂ (Reads (read depth)) items xs) :
    Reads (sequence (depth + 1) read) cs xs := by
  cases h with
  | brackets inside => exact reads_readList inside begins reads

theorem settled_sequence {read : Nat → Reader α} {items : List (List Char)} (h : ArrayText items cs)
    (begins : ∀ item ∈ items, Begins item) (settled : ∀ item ∈ items, Settled (read depth) item) :
    Settled (sequence (depth + 1) read) cs := by
  cases h with
  | brackets inside => exact .of_eq (fun rest _ => rfl) (settled_readList inside begins settled)

/-- A list that is read has been read item by item. -/
theorem forall₂_of_reads_sequence {read : Nat → Reader α} {items : List (List Char)} {xs : List α}
    (h : ArrayText items cs) (begins : ∀ item ∈ items, Begins item)
    (settled : ∀ item ∈ items, Settled (read depth) item)
    (reads : Reads (sequence (depth + 1) read) cs xs) : List.Forall₂ (Reads (read depth)) items xs := by
  cases h with
  | @brackets cs inside =>
    have reads' : Reads (readList (read depth)) cs xs := fun rest hr => reads rest hr
    rcases readList_settled inside begins settled with ⟨ys, taken⟩ | refuses
    · rwa [reads'.unique (reads_readList inside begins taken)]
    · exact absurd refuses reads'.not_refuses

end SearchDomain.Json
