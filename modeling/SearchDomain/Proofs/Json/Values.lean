import Mathlib.Data.List.Forall2
import SearchDomain.Proofs.Json.Settled
/-!
# Values — lists, objects and values are read by their parts

What a reader makes of a list or an object follows from what it makes of each item or member (`reads_readList`,
`settled_readList`, `settled_readObject`). From the leaves up, every text of a value is settled for the reader of values
(`settled_value`) and for those of the typed leaves.
-/
namespace SearchDomain.Json

variable {α β : Type} {read : Reader α} {first : Bool} {fuel depth : Nat} {cs b b' rest : List Char} {x : α}
  {xs : List α}

/-- Blanks before what it reads mean nothing to a reader. -/
def SkipsBlanks (read : Reader α) : Prop := ∀ {b : List Char}, Blank b → ∀ cs, read (b ++ cs) = read cs

/-! ## Lists -/

variable {item : List Char} {items : List (List Char)}

theorem nextItem_item (before : Blank b) (after : Blank b') (begins : Begins item) (cs : List Char) :
    nextItem first (b ++ (separator first ++ (b' ++ (item ++ cs)))) = .ok (some (item ++ cs), item ++ cs) := by
  obtain ⟨c, tail, rfl, hb, hc⟩ := begins
  have hskip : skipBlanks (b' ++ (c :: tail ++ cs)) = c :: (tail ++ cs) := by
    rw [skipBlanks_append after]
    exact skipBlanks_cons hb _
  unfold nextItem
  rw [skipBlanks_append before]
  cases first with
  | true =>
    rw [separator, List.nil_append, hskip]
    simp only [if_neg hc, if_true]
    rfl
  | false =>
    rw [separator, List.singleton_append, skipBlanks_cons (by decide)]
    simp only [hskip, if_neg hc]
    rfl

theorem nextItem_close (blank : Blank b) (rest : List Char) :
    nextItem first (b ++ (']' :: rest)) = .ok (none, ']' :: rest) := by
  unfold nextItem
  rw [skipBlanks_append blank, skipBlanks_cons (by decide)]
  rfl

theorem readItems_close (blank : Blank b) (rest : List Char) :
    readItems read (fuel + 1) first (b ++ (']' :: rest)) = .ok ([], ']' :: rest) := by
  rw [readItems, nextItem_close blank]
  rfl

/-- One item of a list is read, then the others. -/
theorem readItems_item (before : Blank b) (after : Blank b') (begins : Begins item) (cs : List Char) :
    readItems read (fuel + 1) first (b ++ (separator first ++ (b' ++ (item ++ cs)))) =
      (do
        let (x, rest) ← read (item ++ cs)
        let (xs, rest) ← readItems read fuel false rest
        return (x :: xs, rest)) := by
  rw [readItems, nextItem_item before after begins]
  rfl

theorem readItems_reads (h : ItemsText first items cs) (begins : ∀ item ∈ items, Begins item)
    (reads : List.Forall₂ (Reads read) items xs) (enough : items.length < fuel) (rest : List Char) :
    readItems read fuel first (cs ++ rest) = .ok (xs, ']' :: rest) := by
  induction h generalizing xs fuel with
  | close blank =>
    cases reads
    obtain ⟨fuel, rfl⟩ := Nat.exists_eq_succ_of_ne_zero (Nat.ne_of_gt enough)
    rw [List.append_assoc]
    exact readItems_close blank rest
  | item before after tail ih =>
    cases reads with
    | cons first others =>
      obtain ⟨fuel, rfl⟩ := Nat.exists_eq_succ_of_ne_zero (Nat.ne_zero_of_lt enough)
      have hrest := ih (fun i hi => begins i (List.mem_cons_of_mem _ hi)) others (Nat.lt_of_succ_lt_succ enough)
      simp only [List.append_assoc]
      rw [readItems_item before after (begins _ List.mem_cons_self), first _ (tail.delimited rest)]
      show (readItems read _ false _ >>= _) = _
      rw [hrest]
      rfl

/-- Settled items are all taken, or the list is refused. -/
theorem readItems_settled (h : ItemsText first items cs) (begins : ∀ item ∈ items, Begins item)
    (settled : ∀ item ∈ items, Settled read item) : (∃ xs, List.Forall₂ (Reads read) items xs) ∨
      ∀ fuel rest, ∃ fault, readItems read fuel first (cs ++ rest) = .error fault := by
  induction h with
  | close blank => exact .inl ⟨[], .nil⟩
  | @item first b b' item cs items before after tail ih =>
    have step : ∀ fuel rest, readItems read (fuel + 1) first (b ++ (separator first ++ (b' ++ (item ++ cs))) ++ rest) =
        (do
          let (x, rest) ← read (item ++ (cs ++ rest))
          let (xs, rest) ← readItems read fuel false rest
          return (x :: xs, rest)) := by
      intro fuel rest
      simp only [List.append_assoc]
      exact readItems_item before after (begins _ List.mem_cons_self) _
    rcases settled item List.mem_cons_self with ⟨x, reads⟩ | refuses
    · rcases ih (fun i hi => begins i (List.mem_cons_of_mem _ hi))
          (fun i hi => settled i (List.mem_cons_of_mem _ hi)) with ⟨xs, others⟩ | hfault
      · exact .inl ⟨x :: xs, .cons reads others⟩
      · refine .inr fun fuel rest => ?_
        cases fuel with
        | zero => exact ⟨_, rfl⟩
        | succ fuel =>
          obtain ⟨fault, he⟩ := hfault fuel rest
          refine ⟨fault, ?_⟩
          rw [step, reads _ (tail.delimited rest)]
          show (readItems read fuel false (cs ++ rest) >>= _) = _
          rw [he]
          rfl
    · refine .inr fun fuel rest => ?_
      cases fuel with
      | zero => exact ⟨_, rfl⟩
      | succ fuel =>
        obtain ⟨fault, he⟩ := refuses _ (tail.delimited rest)
        refine ⟨fault, ?_⟩
        rw [step, he]
        rfl

theorem ItemsText.length_le (h : ItemsText first items cs) : items.length + (separator first).length ≤ cs.length := by
  induction h with
  | @close first b _ => cases first <;> simp [separator]
  | item _ _ _ ih =>
    simp only [separator, List.length_cons, List.length_nil] at ih
    simp only [List.length_cons, List.length_append]
    omega

/-- **A list is read as its items are.** -/
theorem reads_readList (h : ItemsText true items cs) (begins : ∀ item ∈ items, Begins item)
    (reads : List.Forall₂ (Reads read) items xs) : Reads (readList read) cs xs := by
  intro rest _
  have enough : items.length < (cs ++ rest).length + 1 := by
    have := h.length_le
    rw [List.length_append]
    omega
  unfold readList
  rw [readItems_reads h begins reads enough rest]
  rfl

theorem readList_settled (h : ItemsText true items cs) (begins : ∀ item ∈ items, Begins item)
    (settled : ∀ item ∈ items, Settled read item) :
    (∃ xs, List.Forall₂ (Reads read) items xs) ∨ Refuses (readList read) cs := by
  rcases readItems_settled h begins settled with taken | hfault
  · exact .inl taken
  · refine .inr fun rest _ => ?_
    obtain ⟨fault, he⟩ := hfault _ rest
    refine ⟨fault, ?_⟩
    unfold readList
    rw [he]
    rfl

theorem settled_readList (h : ItemsText true items cs) (begins : ∀ item ∈ items, Begins item)
    (settled : ∀ item ∈ items, Settled read item) : Settled (readList read) cs :=
  (readList_settled h begins settled).imp_left fun ⟨xs, reads⟩ => ⟨xs, reads_readList h begins reads⟩

/-! ## Objects -/

variable {key : String} {g w name value : List Char} {members : List (String × List Char)}

/-- A key leads to its literal, past the opening quote. -/
theorem nextKey_literal (first : Bool) (before : Blank b) (after : Blank b') (literal : Literal key name)
    (cs : List Char) :
    ∃ unread left, nextKey first (b ++ (separator first ++ (b' ++ (name ++ cs)))) = .ok (some unread, left) ∧
      readString unread = .ok (key, cs) := by
  cases literal with
  | @quoted body spells =>
    refine ⟨body ++ '"' :: cs, body ++ '"' :: cs, ?_, spells.readString cs⟩
    have hskip : skipBlanks (b' ++ ('"' :: (body ++ ['"']) ++ cs)) = '"' :: (body ++ '"' :: cs) := by
      rw [skipBlanks_append after, List.cons_append, skipBlanks_cons (by decide), List.append_assoc]
      rfl
    unfold nextKey
    rw [skipBlanks_append before]
    cases first with
    | true =>
      rw [separator, List.nil_append, hskip]
      rfl
    | false =>
      rw [separator, List.singleton_append, skipBlanks_cons (by decide)]
      simp only [hskip]
      rfl

theorem nextKey_bracket (blank : Blank b) (rest : List Char) :
    nextKey first (b ++ ('}' :: rest)) = .ok (none, '}' :: rest) := by
  unfold nextKey
  rw [skipBlanks_append blank, skipBlanks_cons (by decide)]
  rfl

theorem expectColon_colon (blank : Blank b) (cs : List Char) : expectColon (b ++ ':' :: cs) = .ok cs := by
  unfold expectColon
  rw [skipBlanks_append blank, skipBlanks_cons (by decide)]
  rfl

theorem readMembers_bracket (blank : Blank b) (rest : List Char) :
    readMembers read (fuel + 1) first (b ++ ('}' :: rest)) = .ok ([], '}' :: rest) := by
  rw [readMembers, nextKey_bracket blank]
  rfl

/-- One member of an object is read, then the others. -/
theorem readMembers_member (skips : SkipsBlanks read) (before : Blank b) (beforeKey : Blank b')
    (literal : Literal key name) (beforeColon : Blank g) (beforeValue : Blank w) (cs : List Char) :
    readMembers read (fuel + 1) first
        (b ++ (separator first ++ (b' ++ (name ++ (g ++ ':' :: (w ++ (value ++ cs))))))) =
      (do
        let (x, rest) ← read (value ++ cs)
        let (xs, rest) ← readMembers read fuel false rest
        return ((key, x) :: xs, rest)) := by
  obtain ⟨unread, left, hnext, hkey⟩ :=
    nextKey_literal first before beforeKey literal (g ++ ':' :: (w ++ (value ++ cs)))
  rw [readMembers, hnext]
  show (readString unread >>= _) = _
  rw [hkey]
  show (expectColon (g ++ ':' :: (w ++ (value ++ cs))) >>= _) = _
  rw [expectColon_colon beforeColon]
  show (read (w ++ (value ++ cs)) >>= _) = _
  rw [skips beforeValue]

/-- A member and what a reader makes of it: the key, and the value with its text. -/
def ReadsMember (read : Reader α) (member : String × List Char) (x : String × α) : Prop :=
  member.1 = x.1 ∧ Reads read member.2 x.2

theorem readMembers_reads {xs : List (String × α)} (skips : SkipsBlanks read) (h : MembersText first members cs)
    (reads : List.Forall₂ (ReadsMember read) members xs) (enough : members.length < fuel) (rest : List Char) :
    readMembers read fuel first (cs ++ rest) = .ok (xs, '}' :: rest) := by
  induction h generalizing xs fuel with
  | close blank =>
    cases reads
    obtain ⟨fuel, rfl⟩ := Nat.exists_eq_succ_of_ne_zero (Nat.ne_of_gt enough)
    rw [List.append_assoc]
    exact readMembers_bracket blank rest
  | member before beforeKey literal beforeColon beforeValue tail ih =>
    cases reads with
    | @cons _ x _ xs first others =>
      obtain ⟨key, x⟩ := x
      obtain ⟨rfl, reads⟩ := first
      obtain ⟨fuel, rfl⟩ := Nat.exists_eq_succ_of_ne_zero (Nat.ne_zero_of_lt enough)
      have hrest := ih others (Nat.lt_of_succ_lt_succ enough)
      simp only [List.append_assoc, List.cons_append]
      rw [readMembers_member skips before beforeKey literal beforeColon beforeValue, reads _ (tail.delimited rest)]
      show (readMembers read _ false _ >>= _) = _
      rw [hrest]
      rfl

/-- Settled members are all taken, or the object is refused. -/
theorem readMembers_settled (skips : SkipsBlanks read) (h : MembersText first members cs)
    (settled : ∀ member ∈ members, Settled read member.2) : (∃ xs, List.Forall₂ (ReadsMember read) members xs) ∨
      ∀ fuel rest, ∃ fault, readMembers read fuel first (cs ++ rest) = .error fault := by
  induction h with
  | close blank => exact .inl ⟨[], .nil⟩
  | @member first b b' g w name value cs key members before beforeKey literal beforeColon beforeValue tail ih =>
    have step : ∀ fuel rest, readMembers read (fuel + 1) first
          (b ++ (separator first ++ (b' ++ (name ++ (g ++ ':' :: (w ++ (value ++ cs)))))) ++ rest) =
        (do
          let (x, rest) ← read (value ++ (cs ++ rest))
          let (xs, rest) ← readMembers read fuel false rest
          return ((key, x) :: xs, rest)) := by
      intro fuel rest
      simp only [List.append_assoc, List.cons_append]
      exact readMembers_member skips before beforeKey literal beforeColon beforeValue _
    rcases settled (key, value) List.mem_cons_self with ⟨x, reads⟩ | refuses
    · rcases ih fun m hm => settled m (List.mem_cons_of_mem _ hm) with ⟨xs, others⟩ | hfault
      · exact .inl ⟨(key, x) :: xs, .cons ⟨rfl, reads⟩ others⟩
      · refine .inr fun fuel rest => ?_
        cases fuel with
        | zero => exact ⟨_, rfl⟩
        | succ fuel =>
          obtain ⟨fault, he⟩ := hfault fuel rest
          refine ⟨fault, ?_⟩
          rw [step, reads _ (tail.delimited rest)]
          show (readMembers read fuel false (cs ++ rest) >>= _) = _
          rw [he]
          rfl
    · refine .inr fun fuel rest => ?_
      cases fuel with
      | zero => exact ⟨_, rfl⟩
      | succ fuel =>
        obtain ⟨fault, he⟩ := refuses _ (tail.delimited rest)
        refine ⟨fault, ?_⟩
        rw [step, he]
        rfl

theorem MembersText.length_le (h : MembersText first members cs) :
    members.length + (separator first).length ≤ cs.length := by
  induction h with
  | @close first b _ => cases first <;> simp [separator]
  | member _ _ _ _ _ _ ih =>
    simp only [separator, List.length_cons, List.length_nil] at ih
    simp only [List.length_cons, List.length_append]
    omega

/-- The fuel of a text is enough for its members. -/
theorem MembersText.enough (h : MembersText first members cs) (rest : List Char) :
    members.length < (cs ++ rest).length + 1 := by
  have := h.length_le
  rw [List.length_append]
  omega

/-- **An object is read as its members are.** -/
theorem reads_readObject {xs : List (String × α)} (skips : SkipsBlanks read) (h : MembersText true members cs)
    (reads : List.Forall₂ (ReadsMember read) members xs) : Reads (readObject read) cs xs := by
  intro rest _
  unfold readObject
  rw [readMembers_reads skips h reads (h.enough rest) rest]
  rfl

theorem settled_readObject (skips : SkipsBlanks read) (h : MembersText true members cs)
    (settled : ∀ member ∈ members, Settled read member.2) : Settled (readObject read) cs := by
  rcases readMembers_settled skips h settled with ⟨xs, reads⟩ | hfault
  · exact .inl ⟨xs, reads_readObject skips h reads⟩
  · refine .inr fun rest _ => ?_
    obtain ⟨fault, he⟩ := hfault _ rest
    refine ⟨fault, ?_⟩
    unfold readObject
    rw [he]
    rfl

/-! ## Values -/

theorem value_skipsBlanks (depth : Nat) : SkipsBlanks (Json.value depth) := fun blank cs => by
  rw [Json.value.eq_def, Json.value.eq_def depth cs]
  simp only [skipBlanks_append blank]

theorem isBlank_of_number {c : Char} (h : c = '-' ∨ isDigit c = true) : isBlank c = false := by
  rcases h with rfl | hd
  · decide
  · exact isBlank_of_isDigit hd

theorem ne_of_number {c d : Char} (h : c = '-' ∨ isDigit c = true) (hm : '-' ≠ d) (hd : isDigit d = false) : c ≠ d := by
  rcases h with rfl | hc
  · exact hm
  · exact ne_of_isDigit hc hd

theorem value_number {c : Char} (h : c = '-' ∨ isDigit c = true) (cs : List Char) :
    Json.value depth (c :: cs) = (readNumber (c :: cs)).map fun (n, rest) => (.number n, rest) := by
  have hne : ∀ d : Char, '-' ≠ d → isDigit d = false → c ≠ d := fun d => ne_of_number h
  rw [Json.value.eq_def]
  simp only [skipBlanks_cons (isBlank_of_number h)]
  split
  · rename_i he
    cases he
  all_goals
    rename_i he
    cases he
    first
      | exact absurd rfl (hne _ (by decide) (by decide))
      | exact if_pos h

theorem value_string (cs : List Char) :
    Json.value depth ('"' :: cs) = (readString cs).map fun (s, rest) => (.string s, rest) := by
  cases depth <;> rfl

theorem Literal.reads_value {s : String} (literal : Literal s cs) : Reads (Json.value depth) cs (.string s) := by
  cases literal with
  | quoted spells =>
    intro rest _
    rw [List.cons_append, value_string, List.append_assoc, List.singleton_append, spells.readString]
    rfl

theorem reads_array {xs : List Json} (h : ArrayText items cs) (begins : ∀ item ∈ items, Begins item)
    (reads : List.Forall₂ (Reads (Json.value depth)) items xs) : Reads (Json.value (depth + 1)) cs (.array xs) := by
  cases h with
  | brackets inside => exact (reads_readList inside begins reads).map Json.array

theorem reads_object {xs : List (String × Json)} (h : ObjectText members cs)
    (reads : List.Forall₂ (ReadsMember (Json.value depth)) members xs) :
    Reads (Json.value (depth + 1)) cs (.ofMembers xs) := by
  cases h with
  | brackets inside =>
    exact (reads_readObject (value_skipsBlanks depth) inside reads).map fun ms => Json.object (Table.ofList ms)

/-- **A reader of values takes every text of a value, or refuses it**, whatever follows. -/
theorem settled_value (h : ValueText cs) : ∀ depth, Settled (Json.value depth) cs := by
  induction h with
  | null => exact fun depth => .inl ⟨.null, fun rest _ => by cases depth <;> rfl⟩
  | true => exact fun depth => .inl ⟨.bool true, fun rest _ => by cases depth <;> rfl⟩
  | false => exact fun depth => .inl ⟨.bool false, fun rest _ => by cases depth <;> rfl⟩
  | number number =>
    intro depth
    refine .of_eq (fun rest _ => ?_) ((settled_readNumber number).map Json.number)
    obtain ⟨c, tail, rfl, hc⟩ := number.head
    exact value_number hc (tail ++ rest)
  | string literal => exact fun depth => .inl ⟨_, literal.reads_value⟩
  | array spelled values ih =>
    cases spelled with
    | brackets inside =>
      intro depth
      cases depth with
      | zero => exact .inr fun rest _ => ⟨_, rfl⟩
      | succ depth =>
        refine .of_eq (fun rest _ => rfl) (Settled.map ?_ Json.array)
        exact settled_readList inside (fun item hi => (values item hi).begins) fun item hi => ih item hi depth
  | object spelled values ih =>
    cases spelled with
    | brackets inside =>
      intro depth
      cases depth with
      | zero => exact .inr fun rest _ => ⟨_, rfl⟩
      | succ depth =>
        refine .of_eq (fun rest _ => rfl) (Settled.map ?_ fun ms => Json.object (Table.ofList ms))
        exact settled_readObject (value_skipsBlanks depth) inside fun member hm => ih member hm depth

/-! ## Typed leaves -/

theorem text_skipsBlanks : SkipsBlanks text := fun blank cs => by
  unfold text
  rw [skipBlanks_append blank]

theorem Literal.reads_text {s : String} (literal : Literal s cs) : Reads text cs s := by
  cases literal with
  | quoted spells =>
    intro rest _
    rw [List.cons_append, List.append_assoc]
    exact spells.readString rest

/-- No text is of the right type where a value of another type is named. -/
theorem wrongType_error (expected : String) : ∃ fault, (wrongType expected cs : Except Fault α) = .error fault := by
  unfold wrongType
  split
  case h_7 c tail _ _ _ _ _ _ =>
    by_cases hc : c = '-' ∨ isDigit c = true
    · rw [if_pos hc]
      cases readNumber (c :: tail) <;> exact ⟨_, rfl⟩
    · rw [if_neg hc]
      exact ⟨_, rfl⟩
  case h_1 rest => cases expectWord ['u', 'l', 'l'] rest <;> exact ⟨_, rfl⟩
  case h_2 rest => cases expectWord ['r', 'u', 'e'] rest <;> exact ⟨_, rfl⟩
  case h_3 rest => cases expectWord ['a', 'l', 's', 'e'] rest <;> exact ⟨_, rfl⟩
  case h_4 rest => cases readString rest <;> exact ⟨_, rfl⟩
  all_goals exact ⟨_, rfl⟩

theorem refuses_text {c : Char} (blank : isBlank c = false) (quote : c ≠ '"') : Refuses text (c :: cs) := by
  intro rest _
  unfold text
  rw [List.cons_append, skipBlanks_cons blank]
  split
  · rename_i he
    cases he
  · rename_i he
    cases he
    exact absurd rfl quote
  · exact wrongType_error "a string"

/-- A value that does not begin with a quote is no literal. -/
theorem ValueText.literal_or_head (h : ValueText cs) :
    (∃ s, Literal s cs) ∨ ∃ c tail, cs = c :: tail ∧ isBlank c = Bool.false ∧ c ≠ '"' := by
  cases h with
  | string literal => exact .inl ⟨_, literal⟩
  | number number =>
    obtain ⟨c, tail, rfl, hc⟩ := number.head
    exact .inr ⟨c, tail, rfl, isBlank_of_number hc, ne_of_number hc (by decide) (by decide)⟩
  | array spelled =>
    cases spelled
    exact .inr ⟨_, _, rfl, by decide, by decide⟩
  | object spelled =>
    cases spelled
    exact .inr ⟨_, _, rfl, by decide, by decide⟩
  | _ => exact .inr ⟨_, _, rfl, by decide, by decide⟩

theorem settled_text (h : ValueText cs) : Settled text cs := by
  rcases h.literal_or_head with ⟨s, literal⟩ | ⟨c, tail, rfl, blank, quote⟩
  · exact .inl ⟨s, literal.reads_text⟩
  · exact .inr (refuses_text blank quote)

theorem refuses_flag {c : Char} (blank : isBlank c = false) (true : c ≠ 't') (false : c ≠ 'f') :
    Refuses flag (c :: cs) := by
  intro rest _
  unfold flag
  rw [List.cons_append, skipBlanks_cons blank]
  split
  · rename_i he
    cases he
  · rename_i he
    cases he
    exact absurd rfl true
  · rename_i he
    cases he
    exact absurd rfl false
  · exact wrongType_error "a boolean"

/-- A value is one of the three words, or it begins with something else. -/
theorem ValueText.word_or_head (h : ValueText cs) :
    cs = ['n', 'u', 'l', 'l'] ∨ cs = ['t', 'r', 'u', 'e'] ∨ cs = ['f', 'a', 'l', 's', 'e'] ∨
      ∃ c tail, cs = c :: tail ∧ isBlank c = Bool.false ∧ c ≠ 'n' ∧ c ≠ 't' ∧ c ≠ 'f' := by
  cases h with
  | null => exact .inl rfl
  | true => exact .inr (.inl rfl)
  | false => exact .inr (.inr (.inl rfl))
  | number number =>
    obtain ⟨c, tail, rfl, hc⟩ := number.head
    exact .inr (.inr (.inr ⟨c, tail, rfl, isBlank_of_number hc, ne_of_number hc (by decide) (by decide),
      ne_of_number hc (by decide) (by decide), ne_of_number hc (by decide) (by decide)⟩))
  | string literal =>
    cases literal
    exact .inr (.inr (.inr ⟨_, _, rfl, by decide, by decide, by decide, by decide⟩))
  | array spelled =>
    cases spelled
    exact .inr (.inr (.inr ⟨_, _, rfl, by decide, by decide, by decide, by decide⟩))
  | object spelled =>
    cases spelled
    exact .inr (.inr (.inr ⟨_, _, rfl, by decide, by decide, by decide, by decide⟩))

theorem settled_flag (h : ValueText cs) : Settled flag cs := by
  rcases h.word_or_head with rfl | rfl | rfl | ⟨c, tail, rfl, blank, -, true, false⟩
  · exact .inr (refuses_flag (by decide) (by decide) (by decide))
  · exact .inl ⟨Bool.true, fun rest _ => rfl⟩
  · exact .inl ⟨Bool.false, fun rest _ => rfl⟩
  · exact .inr (refuses_flag blank true false)

theorem optional_skipsBlanks : SkipsBlanks (optional read) := fun blank cs => by
  unfold optional
  rw [skipBlanks_append blank]

theorem optional_some {c : Char} (blank : isBlank c = false) (null : c ≠ 'n') (cs : List Char) :
    optional read (c :: cs) = (read (c :: cs)).map fun (x, rest) => (some x, rest) := by
  unfold optional
  rw [skipBlanks_cons blank]
  split
  · rename_i he
    cases he
    exact absurd rfl null
  · rfl

theorem Reads.optional {c : Char} (reads : Reads read (c :: cs) x) (blank : isBlank c = false) (null : c ≠ 'n') :
    Reads (optional read) (c :: cs) (some x) := fun rest delimited =>
  (optional_some blank null (cs ++ rest)).trans ((reads.map some) rest delimited)

theorem settled_optional (settled : Settled read cs) (h : ValueText cs) : Settled (optional read) cs := by
  have present : ∀ {c tail}, cs = c :: tail → isBlank c = false → c ≠ 'n' → Settled (optional read) cs := by
    rintro c tail rfl blank null
    exact .of_eq (fun rest _ => optional_some blank null (tail ++ rest)) (settled.map some)
  rcases h.word_or_head with rfl | rfl | rfl | ⟨c, tail, rfl, blank, null, -⟩
  · exact .inl ⟨none, fun rest _ => rfl⟩
  · exact present rfl (by decide) (by decide)
  · exact present rfl (by decide) (by decide)
  · exact present rfl blank null

theorem freeObject_skipsBlanks : SkipsBlanks (freeObject depth) := fun blank cs => by
  unfold freeObject
  rw [skipBlanks_append blank]

theorem refuses_freeObject {c : Char} (blank : isBlank c = false) (brace : c ≠ '{') :
    Refuses (freeObject depth) (c :: cs) := by
  intro rest _
  unfold freeObject
  rw [List.cons_append, skipBlanks_cons blank]
  split
  · rename_i he
    cases he
  · rename_i he
    cases he
    exact absurd rfl brace
  · exact wrongType_error "a map"

theorem settled_freeObject (h : ValueText cs) : Settled (freeObject depth) cs := by
  cases h with
  | object spelled values =>
    cases spelled with
    | brackets inside =>
      cases depth with
      | zero => exact .inr fun rest _ => ⟨_, rfl⟩
      | succ depth =>
        refine .of_eq (fun rest _ => rfl) (Settled.map ?_ Table.ofList)
        exact settled_readObject (value_skipsBlanks depth) inside fun member hm =>
          settled_value (values member hm) depth
  | number number =>
    obtain ⟨c, tail, rfl, hc⟩ := number.head
    exact .inr (refuses_freeObject (isBlank_of_number hc) (ne_of_number hc (by decide) (by decide)))
  | string literal =>
    cases literal
    exact .inr (refuses_freeObject (by decide) (by decide))
  | array spelled =>
    cases spelled
    exact .inr (refuses_freeObject (by decide) (by decide))
  | _ => exact .inr (refuses_freeObject (by decide) (by decide))

/-! ## Whole texts -/

/-- A whole text is read when its reader leaves nothing but blanks. -/
theorem readAll_eq_ok_iff {read : Nat → Reader α} {source : String} {x : α} :
    readAll read source = .ok x ↔ ∃ rest, read maxDepth source.toList = .ok (x, rest) ∧ skipBlanks rest = [] := by
  unfold readAll
  simp only [bind, Except.bind]
  cases read maxDepth source.toList with
  | error fault => exact ⟨(fun h => nomatch h), fun ⟨_, h, _⟩ => nomatch h⟩
  | ok taken =>
    obtain ⟨y, rest⟩ := taken
    constructor
    · intro h
      cases hs : skipBlanks rest with
      | nil =>
        simp only [hs] at h
        cases h
        exact ⟨rest, rfl, hs⟩
      | cons c cs =>
        simp only [hs] at h
        cases h
    · rintro ⟨rest', h, hs⟩
      cases h
      simp only [hs]
      rfl

theorem mapError_eq_ok_iff {ε ε' : Type} {f : ε → ε'} {e : Except ε α} : e.mapError f = .ok x ↔ e = .ok x := by
  cases e with
  | error fault => exact ⟨(fun h => nomatch h), fun h => nomatch h⟩
  | ok y => exact ⟨fun h => congrArg Except.ok (Except.ok.inj h), fun h => congrArg Except.ok (Except.ok.inj h)⟩

end SearchDomain.Json
