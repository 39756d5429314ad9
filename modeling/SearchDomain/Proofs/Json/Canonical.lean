import SearchDomain.Proofs.Json.Yields
/-!
# Canonical — values are read back from what is written for them

A value that was read, and that holds no floating-point number, is read from its own text again, with the same brackets
still to open (`Fits.reads_write`). Nothing is asked of its strings; the members of its objects are in key order, so
that the table of them is what they are.
-/
namespace SearchDomain.Json

variable {depth n : Nat} {c : Char} {ds rest : List Char} {v : Json}

/-! ## Whole numbers -/

theorem isDigit_of_mem_writeNat (h : c ∈ writeNat n) : isDigit c = true := by
  have digit : c.isDigit = true := Nat.isDigit_of_mem_toDigits (by decide) (by decide) h
  exact digit

theorem writeNat_of_lt (h : n < 10) : writeNat n = [n.digitChar] := Nat.toDigits_of_lt_base h

theorem writeNat_of_le (h : 10 ≤ n) : writeNat n = writeNat (n / 10) ++ [(n % 10).digitChar] :=
  Nat.toDigits_of_base_le (by decide) h

/-- Only zero begins with a zero. -/
theorem writeNat_eq_cons (pos : 0 < n) : ∃ d ds, writeNat n = d :: ds ∧ d ≠ '0' := by
  induction n using Nat.strongRecOn with
  | ind n ih =>
    rcases Nat.lt_or_ge n 10 with small | large
    · have nonzero : ∀ n < 10, 0 < n → n.digitChar ≠ '0' := by decide
      exact ⟨_, _, writeNat_of_lt small, nonzero n small pos⟩
    · obtain ⟨d, ds, he, hd⟩ := ih (n / 10) (by omega) (by omega)
      exact ⟨d, ds ++ [(n % 10).digitChar], by rw [writeNat_of_le large, he]; rfl, hd⟩

theorem wholeText_writeNat (n : Nat) : WholeText (writeNat n) := by
  rcases Nat.eq_zero_or_pos n with rfl | pos
  · exact .zero
  · obtain ⟨d, ds, he, hd⟩ := writeNat_eq_cons pos
    have digits : Digits (writeNat n) := fun c hc => isDigit_of_mem_writeNat hc
    rw [he] at digits ⊢
    exact .digits hd digits

theorem unsignedText_writeNat (n : Nat) : UnsignedText (writeNat n) := by
  have unsigned := UnsignedText.parts (wholeText_writeNat n) .none .none
  rwa [List.append_nil, List.append_nil] at unsigned

theorem le_ofDigitChars (n : Nat) (ds : List Char) : n ≤ Nat.ofDigitChars 10 ds n := by
  induction ds generalizing n with
  | nil => exact Nat.le_refl n
  | cons d ds ih => exact Nat.le_trans (by omega) (ih (10 * n + (d.toNat - '0'.toNat)))

/-- Digits of a number within the limit are all appended. -/
theorem appendDigits_of_le {limit : Nat} (h : Nat.ofDigitChars 10 ds n ≤ limit) :
    appendDigits limit n ds = (Nat.ofDigitChars 10 ds n, []) := by
  induction ds generalizing n with
  | nil => rfl
  | cons d ds ih =>
    have value : n * 10 + digitValue d = 10 * n + (d.toNat - '0'.toNat) := by
      rw [Nat.mul_comm]
      rfl
    rw [appendDigits, value, if_pos (Nat.le_trans (le_ofDigitChars _ ds) h)]
    exact ih h

theorem readUnsigned_writeNat (negative : Bool) (fits : n ≤ maxWord) (delimited : Delimited rest) :
    readUnsigned negative (writeNat n ++ rest) = wholeNumber negative n rest := by
  have value : Nat.ofDigitChars 10 (writeNat n) 0 = n := Nat.ofDigitChars_ten_toDigits
  rw [readUnsigned_digits negative (wholeText_writeNat n) delimited.not_digit,
    appendDigits_of_le (by rw [value]; exact fits), value]
  exact afterWhole_delimited negative n delimited

/-- **A whole number that fits a word is read back** from its digits. -/
theorem reads_writeNumber {n : Int} (fits : FitsWord (.whole n)) :
    Reads readNumber (writeNumber (.whole n)) (.whole n) := by
  obtain ⟨low, high⟩ := fits
  intro rest delimited
  cases n with
  | ofNat n =>
    show readNumber (writeNat n ++ rest) = _
    rw [(unsignedText_writeNat n).readNumber, readUnsigned_writeNat false (Int.ofNat_le.1 high) delimited]
    rfl
  | negSucc n =>
    have hn : n + 1 ≤ 0x8000000000000000 := by omega
    have fits : n + 1 ≤ maxWord := Nat.le_trans hn (by decide)
    show readUnsigned true (writeNat (n + 1) ++ rest) = _
    rw [readUnsigned_writeNat true fits delimited]
    unfold wholeNumber
    rw [if_neg (by decide), if_neg (by omega)]
    rfl

/-- Where a number stands a number is read. -/
theorem numberText_writeNumber (n : Int) : NumberText (writeNumber (.whole n)) := by
  cases n with
  | ofNat n => exact .positive (unsignedText_writeNat n)
  | negSucc n => exact .negative (unsignedText_writeNat (n + 1))

/-! ## Values -/

mutual

/-- All the numbers in a value are whole. -/
def isWhole : Json → Bool
  | .number (.float _) => false
  | .array items => areWhole items
  | .object members => areWholeMembers members
  | _ => true

def areWhole : List Json → Bool
  | [] => true
  | v :: vs => isWhole v && areWhole vs

def areWholeMembers : List (String × Json) → Bool
  | [] => true
  | (_, v) :: ms => isWhole v && areWholeMembers ms

end

theorem isWhole_array : ∀ {items : List Json}, (Json.array items).isWhole = true → ∀ item ∈ items, item.isWhole = true
  | [], _ => fun _ h => nomatch h
  | _ :: _, whole => by
    obtain ⟨first, others⟩ := Bool.and_eq_true_iff.1 whole
    exact List.forall_mem_cons.2 ⟨first, isWhole_array others⟩

theorem isWhole_object : ∀ {members : List (String × Json)}, (Json.object members).isWhole = true →
    ∀ member ∈ members, member.2.isWhole = true
  | [], _ => fun _ h => nomatch h
  | _ :: _, whole => by
    obtain ⟨first, others⟩ := Bool.and_eq_true_iff.1 whole
    exact List.forall_mem_cons.2 ⟨first, isWhole_object others⟩

theorem begins_write (whole : v.isWhole = true) : Begins v.write := by
  cases v with
  | null => exact ⟨_, _, rfl, by decide, by decide⟩
  | bool b => cases b <;> exact ⟨_, _, rfl, by decide, by decide⟩
  | number n =>
    cases n with
    | float x => cases whole
    | whole n => exact (ValueText.number (numberText_writeNumber n)).begins
  | string s => exact ⟨_, _, rfl, by decide, by decide⟩
  | array items => cases items <;> exact ⟨_, _, rfl, by decide, by decide⟩
  | object members => cases members <;> exact ⟨_, _, rfl, by decide, by decide⟩

theorem reads_value_number {m : JsonNumber} {cs : List Char} (text : NumberText cs) (reads : Reads readNumber cs m) :
    Reads (Json.value depth) cs (.number m) := by
  intro rest delimited
  obtain ⟨c, tail, rfl, hc⟩ := text.head
  rw [List.cons_append, value_number hc]
  exact (reads.map Json.number) rest delimited

theorem readsMember_write {members : List (String × Json)}
    (reads : ∀ member ∈ members, Reads (Json.value depth) member.2.write member.2) :
    List.Forall₂ (ReadsMember (Json.value depth)) (members.map fun m => (m.1, m.2.write)) members := by
  rw [List.forall₂_map_left_iff, List.forall₂_same]
  exact fun member hm => ⟨rfl, reads member hm⟩

/-- **A value that fits is read back** from what is written for it. -/
theorem Fits.reads_write (fits : Fits depth v) (whole : v.isWhole = true) : Reads (Json.value depth) v.write v := by
  induction fits with
  | @null depth => exact fun rest _ => by cases depth <;> rfl
  | @bool depth b => exact fun rest _ => by cases depth <;> cases b <;> rfl
  | @number depth n word =>
    cases n with
    | float x => cases whole
    | whole n => exact reads_value_number (numberText_writeNumber n) (reads_writeNumber word)
  | string s => exact (literal_writeString s).reads_value
  | @array depth items _ ih =>
    have items_whole := isWhole_array whole
    refine reads_array (arrayText_write items) ?_ ?_
    · exact List.forall_mem_map.2 fun item hi => begins_write (items_whole item hi)
    · rw [List.forall₂_map_left_iff, List.forall₂_same]
      exact fun item hi => ih item hi (items_whole item hi)
  | @object depth members ordered _ ih =>
    have members_whole := isWhole_object whole
    have reads := reads_object (objectText_write members)
      (readsMember_write fun member hm => ih member hm (members_whole member hm))
    rwa [Json.ofMembers, Table.ofList_of_ordered ordered] at reads

/-- The members of an object that fits are read back from what is written for it. -/
theorem Fits.reads_freeObject {members : List (String × Json)} (fits : Fits depth (.object members))
    (whole : (Json.object members).isWhole = true) : Reads (freeObject depth) (Json.object members).write members := by
  cases fits with
  | @object depth _ ordered fits =>
    have members_whole := isWhole_object whole
    have spelled := objectText_write members
    generalize (Json.object members).write = cs at spelled
    cases spelled with
    | brackets inside =>
      have reads := (reads_readObject (value_skipsBlanks depth) inside
        (readsMember_write fun member hm => (fits member hm).reads_write (members_whole member hm))).map Table.ofList
      rw [Table.ofList_of_ordered ordered] at reads
      exact reads

end SearchDomain.Json
