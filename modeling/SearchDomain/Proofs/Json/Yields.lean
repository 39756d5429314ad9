import SearchDomain.Proofs.Json.Values
import SearchDomain.Proofs.OrderedTable
/-!
# Yields — what readers give, whatever the text

A property of everything that a reader can give is told without the grammar: it is kept from the items and members to
the lists and objects (`Yields.readList`, `Yields.readObject`) and from the fields to the record, whether that is read
from an object or from a list (`Layout.KeptByFields.yields_read`). Values that are read have whole numbers that fit a
word, objects in key order, and no more brackets inside one another than could be opened (`yields_value`).
-/
namespace SearchDomain.Json

variable {α β : Type} {read : Reader α} {P : α → Prop} {fuel depth : Nat} {first : Bool}

/-- Whatever the reader takes off a text has the property. -/
def Yields (read : Reader α) (P : α → Prop) : Prop := ∀ cs x rest, read cs = .ok (x, rest) → P x

theorem yields_trivial (read : Reader α) : Yields read fun _ => True := fun _ _ _ _ => trivial

theorem Yields.map {f : α → β} {Q : β → Prop} (h : Yields read P) (of : ∀ x, P x → Q (f x)) :
    Yields (fun cs => (read cs).map fun (x, rest) => (f x, rest)) Q := by
  intro cs y rest taken
  obtain ⟨x, hread, he⟩ := map_eq_ok taken
  cases he
  exact of _ (h _ _ _ hread)

theorem wrongType_ne_ok {expected : String} {cs : List Char} {x : α} :
    (wrongType expected cs : Except Fault α) ≠ .ok x := by
  obtain ⟨fault, he⟩ : ∃ fault, (wrongType expected cs : Except Fault α) = .error fault := wrongType_error expected
  rw [he]
  exact fun h => nomatch h

theorem Yields.readItems (h : Yields read P) : Yields (readItems read fuel first) fun xs => ∀ x ∈ xs, P x := by
  intro cs xs rest taken
  induction fuel generalizing first cs xs rest with
  | zero => cases taken
  | succ fuel ih =>
    rw [Json.readItems] at taken
    obtain ⟨⟨item, left⟩, -, taken⟩ := bind_eq_ok taken
    cases item with
    | none =>
      cases taken
      exact List.forall_mem_nil _
    | some item =>
      obtain ⟨⟨y, left⟩, hread, taken⟩ := bind_eq_ok taken
      obtain ⟨⟨ys, left⟩, hothers, taken⟩ := bind_eq_ok taken
      cases taken
      exact List.forall_mem_cons.2 ⟨h _ _ _ hread, ih _ _ _ hothers⟩

theorem Yields.readList (h : Yields read P) : Yields (readList read) fun xs => ∀ x ∈ xs, P x := by
  intro cs xs rest taken
  obtain ⟨⟨ys, left⟩, hitems, taken⟩ := bind_eq_ok taken
  dsimp only at taken
  split at taken
  · cases taken
    exact h.readItems _ _ _ hitems
  · cases taken

theorem Yields.readMembers (h : Yields read P) : Yields (readMembers read fuel first) fun ms => ∀ m ∈ ms, P m.2 := by
  intro cs ms rest taken
  induction fuel generalizing first cs ms rest with
  | zero => cases taken
  | succ fuel ih =>
    rw [Json.readMembers] at taken
    obtain ⟨⟨name, left⟩, -, taken⟩ := bind_eq_ok taken
    cases name with
    | none =>
      cases taken
      exact List.forall_mem_nil _
    | some name =>
      obtain ⟨⟨key, left⟩, -, taken⟩ := bind_eq_ok taken
      obtain ⟨left, -, taken⟩ := bind_eq_ok taken
      obtain ⟨⟨x, left⟩, hread, taken⟩ := bind_eq_ok taken
      obtain ⟨⟨others, left⟩, hothers, taken⟩ := bind_eq_ok taken
      cases taken
      exact List.forall_mem_cons.2 ⟨h _ _ _ hread, ih _ _ _ hothers⟩

theorem Yields.readObject (h : Yields read P) : Yields (readObject read) fun ms => ∀ m ∈ ms, P m.2 := by
  intro cs ms rest taken
  obtain ⟨⟨ns, left⟩, hmembers, taken⟩ := bind_eq_ok taken
  dsimp only at taken
  split at taken
  · cases taken
    exact h.readMembers _ _ _ hmembers
  · cases taken

/-! ## Numbers -/

/-- A whole number fits a word of 64 bits, with a sign or without. -/
def FitsWord : JsonNumber → Prop
  | .whole n => -0x8000000000000000 ≤ n ∧ n ≤ maxWord
  | .float _ => True

theorem appendDigits_le {limit n : Nat} (h : n ≤ limit) (ds : List Char) : (appendDigits limit n ds).1 ≤ limit := by
  induction ds generalizing n with
  | nil => exact h
  | cons d ds ih =>
    rw [appendDigits]
    split
    · rename_i fits
      exact ih fits
    · exact h

theorem yields_floatNumber (negative : Bool) (significand : Nat) (exponent : Int) :
    Yields (floatNumber negative significand exponent) FitsWord := by
  intro cs n rest taken
  unfold floatNumber at taken
  split at taken
  · cases taken
    trivial
  · cases taken

theorem yields_readExponent (negative : Bool) (significand : Nat) (start : Int) :
    Yields (readExponent negative significand start) FitsWord := by
  intro cs n rest taken
  unfold readExponent at taken
  split at taken
  split at taken
  · cases taken
  split at taken
  · dsimp only at taken
    split at taken
    · exact yields_floatNumber _ _ _ _ _ _ taken
    · split at taken
      · cases taken
      · cases taken
        trivial
  · cases taken

theorem yields_readFraction (negative : Bool) (significand skipped : Nat) :
    Yields (readFraction negative significand skipped) FitsWord := by
  intro cs n rest taken
  unfold readFraction at taken
  split at taken
  · split at taken
    · cases taken
    · cases taken
    · dsimp only at taken
      split at taken
      · split at taken
        · exact yields_readExponent _ _ _ _ _ _ taken
        · exact yields_floatNumber _ _ _ _ _ _ taken
      · exact yields_floatNumber _ _ _ _ _ _ taken
  · split at taken
    · exact yields_readExponent _ _ _ _ _ _ taken
    · exact yields_floatNumber _ _ _ _ _ _ taken
  · exact yields_floatNumber _ _ _ _ _ _ taken

theorem yields_wholeNumber (negative : Bool) {n : Nat} (fits : n ≤ maxWord) :
    Yields (wholeNumber negative n) FitsWord := by
  intro cs m rest taken
  unfold wholeNumber at taken
  split at taken
  · cases taken
    exact ⟨by omega, Int.ofNat_le.2 fits⟩
  split at taken
  · exact yields_floatNumber _ _ _ _ _ _ taken
  · rename_i small
    cases taken
    exact ⟨by omega, by omega⟩

theorem yields_readUnsigned (negative : Bool) : Yields (readUnsigned negative) FitsWord := by
  intro cs n rest taken
  unfold readUnsigned at taken
  split at taken
  · cases taken
  split at taken
  · cases taken
  split at taken
  · dsimp only at taken
    have fits := fun ds => appendDigits_le (Nat.zero_le maxWord) ds
    split at taken
    · split at taken
      · exact yields_readFraction _ _ _ _ _ _ taken
      · exact yields_wholeNumber _ (fits _) _ _ _ taken
    · split at taken
      · exact yields_readFraction _ _ _ _ _ _ taken
      · exact yields_wholeNumber _ (fits _) _ _ _ taken
  · cases taken

theorem yields_readNumber : Yields readNumber FitsWord := by
  intro cs n rest taken
  unfold readNumber at taken
  split at taken
  · exact yields_readUnsigned true _ _ _ taken
  · exact yields_readUnsigned false _ _ _ taken

/-! ## Values -/

/-- A value as it comes from a reader with so many brackets still to open. -/
inductive Fits : Nat → Json → Prop
  | null {depth : Nat} : Fits depth .null
  | bool {depth : Nat} (b : Bool) : Fits depth (.bool b)
  | number {depth : Nat} {n : JsonNumber} (word : FitsWord n) : Fits depth (.number n)
  | string {depth : Nat} (s : String) : Fits depth (.string s)
  | array {depth : Nat} {items : List Json} (fits : ∀ item ∈ items, Fits depth item) : Fits (depth + 1) (.array items)
  | object {depth : Nat} {members : List (String × Json)} (ordered : Table.Ordered members)
      (fits : ∀ member ∈ members, Fits depth member.2) : Fits (depth + 1) (.object members)

theorem fits_ofList {members : List (String × Json)} (fits : ∀ member ∈ members, Fits depth member.2) :
    Fits (depth + 1) (.object (Table.ofList members)) :=
  .object (Table.ordered_ofList members) fun member hm => fits member (Table.mem_ofList hm)

/-- **What is read as a value fits**, whatever the text. -/
theorem yields_value (depth : Nat) : Yields (Json.value depth) (Fits depth) := by
  induction depth using Nat.strongRecOn with
  | ind depth ih =>
    intro cs v rest taken
    rw [Json.value.eq_def] at taken
    dsimp only at taken
    split at taken
    · cases taken
    · obtain ⟨left, -, he⟩ := map_eq_ok taken
      cases he
      exact .null
    · obtain ⟨left, -, he⟩ := map_eq_ok taken
      cases he
      exact .bool true
    · obtain ⟨left, -, he⟩ := map_eq_ok taken
      cases he
      exact .bool false
    · exact ((yields_trivial readString).map fun s _ => .string s) _ _ _ taken
    · cases depth with
      | zero => cases taken
      | succ depth => exact ((ih depth (Nat.lt_succ_self _)).readList.map fun _ => .array) _ _ _ taken
    · cases depth with
      | zero => cases taken
      | succ depth => exact ((ih depth (Nat.lt_succ_self _)).readObject.map fun _ => fits_ofList) _ _ _ taken
    · split at taken
      · exact (yields_readNumber.map fun _ => .number) _ _ _ taken
      · cases taken

theorem yields_freeObject (depth : Nat) : Yields (freeObject depth) fun members => Fits depth (.object members) := by
  intro cs members rest taken
  unfold freeObject at taken
  split at taken
  · cases taken
  · cases depth with
    | zero => cases taken
    | succ depth =>
      have yields : Yields _ fun members => Fits (depth + 1) (.object members) :=
        (yields_value depth).readObject.map (f := Table.ofList) fun _ => fits_ofList
      exact yields _ _ _ taken
  · exact absurd taken wrongType_ne_ok

/-! ## Records -/

section
variable {δ : Type} {layout : Layout δ α} {P : δ → Prop} {draft draft' : δ} {cs rest : List Char}

theorem Yields.field {name : String} {get : δ → Option β} {set : β → δ → δ} {omittable : Bool} {read : Nat → Reader β}
    {Q : β → Prop} (h : Yields (read depth) Q) (of : ∀ x, Q x → P (set x draft)) :
    Yields ((Field.of name get set omittable read).read depth draft) P := h.map of

namespace Layout

/-- What every field keeps. -/
def KeptByFields (layout : Layout δ α) (depth : Nat) (P : δ → Prop) : Prop :=
  ∀ field ∈ layout.fields, ∀ draft, P draft → Yields (field.read depth draft) P

theorem KeptByFields.readMember (kept : layout.KeptByFields depth P) (holds : P draft) (key : String) :
    layout.readMember depth draft key cs = .ok (draft', rest) → P draft' := by
  intro taken
  unfold Layout.readMember at taken
  split at taken
  · rename_i field found
    split at taken
    · cases taken
    · obtain ⟨left, -, taken⟩ := bind_eq_ok (mapError_eq_ok_iff.1 taken)
      exact kept field (List.mem_of_find?_eq_some found) draft holds _ _ _ taken
  · obtain ⟨left, -, taken⟩ := bind_eq_ok (mapError_eq_ok_iff.1 taken)
    obtain ⟨left, -, taken⟩ := bind_eq_ok taken
    cases taken
    exact holds

theorem KeptByFields.readFields (kept : layout.KeptByFields depth P) (holds : P draft)
    (taken : layout.readFields depth fuel first draft cs = .ok (draft', rest)) : P draft' := by
  induction fuel generalizing first draft cs with
  | zero => cases taken
  | succ fuel ih =>
    rw [Layout.readFields] at taken
    obtain ⟨⟨name, left⟩, -, taken⟩ := bind_eq_ok taken
    cases name with
    | none =>
      cases taken
      exact holds
    | some name =>
      obtain ⟨⟨key, left⟩, -, taken⟩ := bind_eq_ok taken
      obtain ⟨⟨mid, left⟩, member, taken⟩ := bind_eq_ok taken
      exact ih (kept.readMember holds key member) taken

theorem KeptByFields.readPositions (kept : layout.KeptByFields depth P) {fields : List (Field δ)}
    (sub : fields ⊆ layout.fields) (holds : P draft) {index : Nat}
    (taken : layout.readPositions depth fields index draft cs = .ok (draft', rest)) : P draft' := by
  induction fields generalizing index draft cs with
  | nil =>
    cases taken
    exact holds
  | cons field fields ih =>
    rw [Layout.readPositions] at taken
    obtain ⟨⟨item, left⟩, -, taken⟩ := bind_eq_ok taken
    cases item with
    | none =>
      dsimp only at taken
      split at taken
      · cases taken
      · cases taken
        exact holds
    | some item =>
      obtain ⟨⟨mid, left⟩, hread, taken⟩ := bind_eq_ok taken
      have hmid : P mid := kept field (sub List.mem_cons_self) draft holds _ _ _ (mapError_eq_ok_iff.1 hread)
      exact ih (fun f hf => sub (List.mem_cons_of_mem _ hf)) hmid taken

/-- A record is complete when its bracket is closed. -/
theorem finish_of_closed {close : List Char → Option Fault × List Char} {outcome : Except Halt (δ × List Char)} {x : α}
    (h : closed close (layout.complete outcome) = .ok (x, rest)) :
    ∃ draft left, outcome = .ok (draft, left) ∧ layout.finish draft = .ok x := by
  cases outcome with
  | error halt => cases h
  | ok gathered =>
    obtain ⟨draft, left⟩ := gathered
    unfold complete at h
    dsimp only at h
    cases finish : layout.finish draft with
    | error name =>
      rw [finish] at h
      cases h
    | ok y =>
      rw [finish] at h
      unfold closed at h
      dsimp only at h
      split at h
      · cases h
        exact ⟨draft, left, rfl, finish⟩
      · cases h

/-- **A record is completed from a draft with all that its fields keep**, whether it was read from an object or from a
list. -/
theorem KeptByFields.yields_read (kept : layout.KeptByFields depth P) (blank : P layout.blank) :
    Yields (layout.read (depth + 1)) fun x => ∃ draft, P draft ∧ layout.finish draft = .ok x := by
  intro cs x rest taken
  unfold Layout.read at taken
  split at taken
  · cases taken
  · obtain ⟨draft, left, hread, finish⟩ := finish_of_closed taken
    exact ⟨draft, kept.readPositions (List.Subset.refl _) blank hread, finish⟩
  · obtain ⟨draft, left, hread, finish⟩ := finish_of_closed taken
    exact ⟨draft, kept.readFields blank hread, finish⟩
  · exact absurd taken wrongType_ne_ok

end Layout
end
end SearchDomain.Json
