import SearchDomain.Proofs.Json.Gathering
/-!
# Placing — records are read item by item

A record may also be written as a list of its fields in the order of the layout. Each item goes into the field that has
its place (`Places`); an item too many, or one that is missing where the field may not be omitted, is a fault whatever
follows. So the text of any value is read as a record, or is refused (`settled_record`), and a list of records is read
exactly as its items are (`reads_sequence_iff`).
-/
namespace SearchDomain.Json

variable {δ α : Type} {layout : Layout δ α} {depth : Nat} {draft draft' : δ} {cs : List Char}
  {items : List (List Char)} {fields : List (Field δ)} {x : α}

/-! ## The end of a list -/

theorem closeList_bracket {b : List Char} (blank : Blank b) (rest : List Char) :
    closeList (b ++ ']' :: rest) = (none, rest) := by
  unfold closeList
  rw [skipBlanks_append blank, skipBlanks_cons (by decide)]
  rfl

theorem closeList_other {c : Char} (blank : isBlank c = false) (bracket : c ≠ ']') (rest : List Char) :
    ∃ fault left, closeList (c :: rest) = (some fault, left) := by
  unfold closeList
  rw [skipBlanks_cons blank]
  simp only [if_neg bracket]
  split
  · split <;> exact ⟨_, _, rfl⟩
  · exact ⟨_, _, rfl⟩

/-- A list does not end where one more item begins. -/
theorem closeList_item (first : Bool) {b i item : List Char} (before : Blank b) (after : Blank i) (begins : Begins item)
    (rest : List Char) :
    ∃ fault left, closeList (b ++ (separator first ++ (i ++ (item ++ rest)))) = (some fault, left) := by
  have hskip : closeList (b ++ (separator first ++ (i ++ (item ++ rest)))) =
      closeList (separator first ++ (i ++ (item ++ rest))) := by
    unfold closeList
    rw [skipBlanks_append before]
  rw [hskip]
  cases first with
  | false => exact closeList_other (by decide) (by decide) _
  | true =>
    obtain ⟨c, tail, rfl, blank, bracket⟩ := begins
    have hskip : closeList (i ++ (c :: tail ++ rest)) = closeList (c :: (tail ++ rest)) := by
      unfold closeList
      rw [skipBlanks_append after]
      rfl
    show ∃ fault left, closeList (i ++ (c :: tail ++ rest)) = (some fault, left)
    rw [hskip]
    exact closeList_other blank bracket _

namespace Layout

/-- Items take a draft to the last one, each in its field. The fields for which there is no item left are omittable. -/
inductive Places (depth : Nat) : List (Field δ) → δ → List (List Char) → δ → Prop
  | nil {fields : List (Field δ)} (draft : δ) (omittable : ∀ field ∈ fields, field.omittable = true) :
      Places depth fields draft [] draft
  | cons {field : Field δ} {fields : List (Field δ)} {draft draft' draft'' : δ} {item : List Char}
      {items : List (List Char)} (first : Reads (field.read depth draft) item draft')
      (rest : Places depth fields draft' items draft'') : Places depth (field :: fields) draft (item :: items) draft''

/-- What the fields know nothing of is left as it is. -/
theorem Places.keeps {β : Type} {part : δ → β} (places : Places depth fields draft items draft')
    (keeps : ∀ field ∈ fields, Keeps part field) : part draft' = part draft := by
  induction places with
  | nil => rfl
  | cons first _ ih =>
    rw [ih fun field hf => keeps field (List.mem_cons_of_mem _ hf)]
    exact keeps _ List.mem_cons_self _ _ _ _ _ (first [] delimited_nil)

/-- A field is read from an item, then the others are. -/
theorem readPositions_item {field : Field δ} {index : Nat} {b i item : List Char} (before : Blank b) (after : Blank i)
    (begins : Begins item) (tail : List Char) :
    layout.readPositions depth (field :: fields) index draft (b ++ (separator (index == 0) ++ (i ++ (item ++ tail)))) =
      Halt.lift (field.read depth draft (item ++ tail)) >>= fun (draft, rest) =>
        layout.readPositions depth fields (index + 1) draft rest := by
  rw [readPositions, nextItem_item before after begins]
  rfl

/-- A list may end before fields that are omittable. -/
theorem readPositions_close {field : Field δ} {index : Nat} {b : List Char} (blank : Blank b) (rest : List Char) :
    layout.readPositions depth (field :: fields) index draft (b ++ ']' :: rest) =
      match (field :: fields).findIdx? (!·.omittable) with
      | some i => .error (.unplaced (.wrongLength (index + i) layout.name layout.fields.length) (']' :: rest))
      | none => .ok (draft, ']' :: rest) := by
  rw [readPositions, nextItem_close blank]
  rfl

theorem Places.readPositions (places : Places depth fields draft items draft') (layout : Layout δ α)
    (begins : ∀ item ∈ items, Begins item) (index : Nat) (inside : ItemsText (index == 0) items cs) (rest : List Char) :
    ∃ left, layout.readPositions depth fields index draft (cs ++ rest) = .ok (draft', left) ∧
      closeList left = (none, rest) := by
  induction places generalizing index cs with
  | @nil fields draft omittable =>
    cases inside with
    | @close _ b blank =>
      rw [List.append_assoc, List.singleton_append]
      cases fields with
      | nil => exact ⟨_, rfl, closeList_bracket blank rest⟩
      | cons field fields =>
        refine ⟨']' :: rest, ?_, closeList_bracket blank_nil rest⟩
        have all : (field :: fields).findIdx? (!·.omittable) = none := by
          rw [List.findIdx?_eq_none_iff]
          exact fun f hf => by rw [omittable f hf]; rfl
        rw [readPositions_close blank, all]
  | @cons field fields draft mid draft' item items first _ ih =>
    generalize hfirst : (index == 0) = isFirst at inside
    cases inside with
    | @item _ b i _ cs _ before after tail =>
      obtain ⟨left, read, closes⟩ := ih (fun item hi => begins item (List.mem_cons_of_mem _ hi)) (index + 1) tail
      refine ⟨left, ?_, closes⟩
      subst hfirst
      simp only [List.append_assoc]
      rw [readPositions_item before after (begins item List.mem_cons_self), first _ (tail.delimited rest)]
      exact read

/-- Settled items can be placed, or the list is refused whatever follows it. -/
theorem places_or_refuses (layout : Layout δ α) (begins : ∀ item ∈ items, Begins item)
    (settled : ∀ field ∈ fields, ∀ item ∈ items, ∀ draft, Settled (field.read depth draft) item) (index : Nat)
    (inside : ItemsText (index == 0) items cs) (draft : δ) :
    (∃ draft', Places depth fields draft items draft') ∨ ∀ rest, ∃ fault,
      closed closeList (layout.complete (layout.readPositions depth fields index draft (cs ++ rest))) =
        .error fault := by
  induction fields generalizing index items cs draft with
  | nil =>
    cases inside with
    | close blank => exact .inl ⟨draft, .nil draft fun field hf => nomatch hf⟩
    | @item _ b i item cs _ before after tail =>
      -- one item more than there are fields is met when the list is closed
      refine .inr fun rest => ?_
      simp only [List.append_assoc]
      rw [Layout.readPositions]
      cases finish : layout.finish draft with
      | error name =>
        rw [complete_missing finish]
        exact ⟨_, rfl⟩
      | ok x =>
        obtain ⟨fault, left, closes⟩ := closeList_item (index == 0) before after
          (begins item List.mem_cons_self) (cs ++ rest)
        rw [complete_ok finish]
        unfold closed
        simp only [closes]
        exact ⟨fault, rfl⟩
  | cons field fields ih =>
    generalize hfirst : (index == 0) = isFirst at inside
    cases inside with
    | @close _ b blank =>
      by_cases all : ∀ f ∈ field :: fields, f.omittable = true
      · exact .inl ⟨draft, .nil draft all⟩
      · refine .inr fun rest => ?_
        obtain ⟨i, missing⟩ : ∃ i, (field :: fields).findIdx? (!·.omittable) = some i := by
          refine Option.ne_none_iff_exists'.1 fun none => all fun f hf => ?_
          simpa using List.findIdx?_eq_none_iff.1 none f hf
        rw [List.append_assoc, List.singleton_append, readPositions_close blank, missing]
        exact ⟨_, rfl⟩
    | @item _ b i item cs _ before after tail =>
      subst hfirst
      rcases settled field List.mem_cons_self item List.mem_cons_self draft with ⟨mid, first⟩ | refuses
      · have others := ih (fun item hi => begins item (List.mem_cons_of_mem _ hi))
          (fun f hf item hi => settled f (List.mem_cons_of_mem _ hf) item (List.mem_cons_of_mem _ hi))
          (index + 1) tail mid
        rcases others with ⟨draft', places⟩ | refused
        · exact .inl ⟨draft', .cons first places⟩
        · refine .inr fun rest => ?_
          simp only [List.append_assoc]
          rw [readPositions_item before after (begins item List.mem_cons_self), first _ (tail.delimited rest)]
          exact refused rest
      · refine .inr fun rest => ?_
        obtain ⟨fault, he⟩ := refuses _ (tail.delimited rest)
        simp only [List.append_assoc]
        rw [readPositions_item before after (begins item List.mem_cons_self), he]
        exact ⟨fault, rfl⟩

/-! ## Lists as records -/

theorem read_list (layout : Layout δ α) (depth : Nat) (cs : List Char) : layout.read (depth + 1) ('[' :: cs) =
    closed closeList (layout.complete (layout.readPositions depth layout.fields 0 layout.blank cs)) := rfl

theorem Places.reads (places : Places depth layout.fields layout.blank items draft)
    (begins : ∀ item ∈ items, Begins item)
    (array : ArrayText items cs) (finish : layout.finish draft = .ok x) : Reads (layout.read (depth + 1)) cs x := by
  cases array with
  | @brackets cs inside =>
    intro rest _
    obtain ⟨left, read, closes⟩ := places.readPositions layout begins 0 inside rest
    rw [List.cons_append, read_list, read, complete_ok finish]
    unfold closed
    simp only [closes]

/-- Settled items are read as a record after they have been placed, or their list is refused. -/
theorem places_or_refuses_read (begins : ∀ item ∈ items, Begins item)
    (settled : ∀ field ∈ layout.fields, ∀ item ∈ items, ∀ draft, Settled (field.read depth draft) item)
    (array : ArrayText items cs) :
    (∃ draft x, Places depth layout.fields layout.blank items draft ∧ layout.finish draft = .ok x) ∨
      Refuses (layout.read (depth + 1)) cs := by
  cases array with
  | @brackets cs inside =>
    rcases places_or_refuses layout begins settled 0 inside layout.blank with
      ⟨draft, places⟩ | refused
    · cases finish : layout.finish draft with
      | ok x => exact .inl ⟨draft, x, places, finish⟩
      | error name =>
        refine .inr fun rest _ => ?_
        obtain ⟨left, read, -⟩ := places.readPositions layout begins 0 inside rest
        rw [List.cons_append, read_list, read, complete_missing finish]
        exact ⟨_, rfl⟩
    · exact .inr fun rest _ => refused rest

/-- **A list that is read as a record has been placed** item by item. -/
theorem places_of_reads (begins : ∀ item ∈ items, Begins item)
    (settled : ∀ field ∈ layout.fields, ∀ item ∈ items, ∀ draft, Settled (field.read depth draft) item)
    (array : ArrayText items cs) (reads : Reads (layout.read (depth + 1)) cs x) :
    ∃ draft, Places depth layout.fields layout.blank items draft ∧ layout.finish draft = .ok x := by
  rcases places_or_refuses_read begins settled array with ⟨draft, y, places, finish⟩ | refuses
  · exact ⟨draft, places, (places.reads begins array finish).unique reads ▸ finish⟩
  · exact absurd refuses reads.not_refuses

/-! ## Any value -/

/-- Each field takes the text of a value or refuses it. -/
def Settles (layout : Layout δ α) (depth : Nat) : Prop :=
  ∀ field ∈ layout.fields, ∀ draft, ∀ {cs : List Char}, ValueText cs → Settled (field.read depth draft) cs

theorem Settles.member (settles : layout.Settles depth) {member : String × List Char} (value : ValueText member.2) :
    layout.SettledMember depth member := ⟨value, fun field hfield _ draft => settles field hfield draft value⟩

theorem refuses_record {c : Char} (blank : isBlank c = false) (list : c ≠ '[') (object : c ≠ '{') :
    Refuses (layout.read depth) (c :: cs) := by
  intro rest _
  unfold Layout.read
  rw [List.cons_append, skipBlanks_cons blank]
  split
  · rename_i he
    cases he
  · rename_i he
    cases he
    exact absurd rfl list
  · rename_i he
    cases he
    exact absurd rfl object
  · exact wrongType_error _

end Layout

/-- A value is a list or an object, or it begins with something else. -/
theorem ValueText.brackets_or_head (h : ValueText cs) :
    (∃ items, ArrayText items cs ∧ ∀ item ∈ items, ValueText item) ∨
      (∃ members, ObjectText members cs ∧ ∀ member ∈ members, ValueText member.2) ∨
        ∃ c tail, cs = c :: tail ∧ isBlank c = Bool.false ∧ c ≠ '[' ∧ c ≠ '{' := by
  cases h with
  | array spelled values => exact .inl ⟨_, spelled, values⟩
  | object spelled values => exact .inr (.inl ⟨_, spelled, values⟩)
  | number number =>
    obtain ⟨c, tail, rfl, hc⟩ := number.head
    exact .inr (.inr ⟨c, tail, rfl, isBlank_of_number hc, ne_of_number hc (by decide) (by decide),
      ne_of_number hc (by decide) (by decide)⟩)
  | string literal =>
    cases literal
    exact .inr (.inr ⟨_, _, rfl, by decide, by decide, by decide⟩)
  | _ => exact .inr (.inr ⟨_, _, rfl, by decide, by decide, by decide⟩)

/-- **The text of a value is read as a record, or is refused**, whatever follows. -/
theorem Layout.settled_record (skips : layout.SkipsBlanks) (settles : layout.Settles depth) (h : ValueText cs) :
    Settled (layout.read (depth + 1)) cs := by
  rcases h.brackets_or_head with ⟨items, array, values⟩ | ⟨members, object, values⟩ | ⟨c, tail, rfl, blank, list, brace⟩
  · have begins := fun item hi => (values item hi).begins
    have settled := fun field hfield item hi draft => settles field hfield draft (values item hi)
    refine (places_or_refuses_read begins settled array).imp_left ?_
    rintro ⟨draft, x, places, finish⟩
    exact ⟨x, places.reads begins array finish⟩
  · exact settled_read skips object fun member hm => settles.member (values member hm)
  · exact .inr (refuses_record blank list brace)

/-! ## Lists of records -/

theorem refuses_sequence {read : Nat → Reader α} {c : Char} (blank : isBlank c = false) (list : c ≠ '[') :
    Refuses (sequence depth read) (c :: cs) := by
  intro rest _
  unfold sequence
  rw [List.cons_append, skipBlanks_cons blank]
  split
  · rename_i he
    cases he
  · rename_i he
    cases he
    exact absurd rfl list
  · exact wrongType_error _

section
variable {read : Nat → Reader α} (settled : ∀ {item : List Char}, ValueText item → Settled (read depth) item)
include settled

theorem settled_sequence_value (h : ValueText cs) : Settled (sequence (depth + 1) read) cs := by
  rcases h.brackets_or_head with ⟨items, array, values⟩ | ⟨members, object, -⟩ | ⟨c, tail, rfl, blank, list, -⟩
  · exact settled_sequence array (fun item hi => (values item hi).begins) fun item hi => settled (values item hi)
  · cases object
    exact .inr (refuses_sequence (by decide) (by decide))
  · exact .inr (refuses_sequence blank list)

/-- **A list is read exactly if its items are**, and then as what they are read as, in order. -/
theorem reads_sequence_iff (h : ValueText cs) {xs : List α} : Reads (sequence (depth + 1) read) cs xs ↔
    ∃ items, ArrayText items cs ∧ (∀ item ∈ items, ValueText item) ∧ List.Forall₂ (Reads (read depth)) items xs := by
  constructor
  · intro reads
    rcases h.brackets_or_head with ⟨items, array, values⟩ | ⟨members, object, -⟩ | ⟨c, tail, rfl, blank, list, -⟩
    · exact ⟨items, array, values, forall₂_of_reads_sequence array (fun item hi => (values item hi).begins)
        (fun item hi => settled (values item hi)) reads⟩
    · cases object
      exact absurd (refuses_sequence (by decide) (by decide)) reads.not_refuses
    · exact absurd (refuses_sequence blank list) reads.not_refuses
  · rintro ⟨items, array, values, reads⟩
    exact reads_sequence array (fun item hi => (values item hi).begins) reads

end

end SearchDomain.Json
