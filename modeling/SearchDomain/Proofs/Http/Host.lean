import SearchDomain.Http.Url
import SearchDomain.Proofs.Idna.Name
import SearchDomain.Proofs.Text.Percent
/-!
# Host — names and ports that are read as they are spelled

A name in small letters whose last label begins with a letter is no numeric address, and it is the host that it
spells (`parse?_eq`). A port in decimal digits is the port that it spells (`port?_writeNat`).
-/
namespace SearchDomain.Http.Host

variable {c : Char} {cs : List Char} {host : Host} {n : Nat}

def isNameChar (c : Char) : Bool := c.isLower || c.isDigit || c == '-' || c == '.'

/-- A name of small letters, digits, hyphens and dots whose last label begins with a letter. -/
structure IsName (cs : List Char) : Prop where
  chars : ∀ c ∈ cs, isNameChar c = true
  last : ∃ l rest, (cs.splitOn '.').getLast? = some (l :: rest) ∧ l.isLower = true

theorem isNameChar_facts (h : isNameChar c = true) :
    c.toNat < 128 ∧ 0x20 < c.toNat ∧ c.toLower = c ∧ c ≠ '%' ∧ c ≠ '@' ∧ c ≠ ':' ∧ c ≠ '[' ∧
      Url.endsAuthority c = false := by
  have ascii : c.toNat < 128 := by
    unfold isNameChar at h
    simp only [Bool.or_eq_true, beq_iff_eq] at h
    obtain ((h | h) | rfl) | rfl := h
    · exact Nat.lt_of_le_of_lt (Text.Percent.bounds_of_isLower h).2 (by decide)
    · exact Nat.lt_of_le_of_lt (Text.Percent.bounds_of_isDigit h).2 (by decide)
    · decide
    · decide
  refine ⟨ascii, Text.Percent.of_ascii (p := fun c => isNameChar c = true → 0x20 < c.toNat ∧ c.toLower = c ∧ c ≠ '%' ∧
    c ≠ '@' ∧ c ≠ ':' ∧ c ≠ '[' ∧ Url.endsAuthority c = false) (by decide) ascii h⟩

theorem IsName.isSmall (h : IsName cs) : Idna.IsSmall cs := fun c hc => by
  obtain ⟨ascii, -, small, -⟩ := isNameChar_facts (h.chars c hc)
  exact ⟨ascii, small⟩

theorem IsName.ne_nil (h : IsName cs) : cs ≠ [] := by
  rintro rfl
  obtain ⟨l, rest, last, -⟩ := h.last
  cases last

/-- A number does not begin with a letter. -/
theorem number?_of_lower {l : Char} {rest : List Char} (h : l.isLower = true) : number? (l :: rest) = none := by
  have zero : l ≠ '0' := by
    rintro rfl
    cases h
  have stuck : ∀ ds : List Char, ds.foldl (fun acc c => acc.bind fun n => (Text.Hex.value? c).bind fun d =>
      if d < 10 then some (n * 10 + d) else none) none = none := by
    intro ds
    induction ds with
    | nil => rfl
    | cons d ds ih => exact ih
  have first : ((Text.Hex.value? l).bind fun d => if d < 10 then some (0 * 10 + d) else none) = none := by
    have low := (Text.Percent.bounds_of_isLower h).1
    unfold Text.Hex.value?
    simp only
    rw [if_neg (by omega), if_neg (by omega)]
    split
    · rw [Option.bind_some, if_neg (by omega)]
    · rfl
  unfold number?
  split
  rename_i base ds hm
  split at hm
  · exact absurd (List.cons.inj (by assumption)).1 zero
  · exact absurd (List.cons.inj (by assumption)).1 zero
  · exact absurd (List.cons.inj (by assumption)).1 zero
  cases hm
  rw [if_neg (List.cons_ne_nil _ _), List.foldl_cons, Option.bind_some, first]
  exact stuck rest

theorem IsName.endsInNumber (h : IsName cs) : endsInNumber cs = false := by
  obtain ⟨l, rest, last, lower⟩ := h.last
  have whole : labels cs = cs.splitOn '.' := by
    unfold labels
    simp only
    rw [if_neg]
    rintro ⟨he, -⟩
    rw [last] at he
    cases he
  have digit : l.isDigit = false := by
    refine Bool.eq_false_iff.2 fun digit => ?_
    have low := (Text.Percent.bounds_of_isLower lower).1
    have high := (Text.Percent.bounds_of_isDigit digit).2
    omega
  unfold Host.endsInNumber
  rw [whole, last]
  simp only
  rw [List.all_cons, digit, number?_of_lower lower]
  rfl

/-- **A name is the host that it spells**, if it is one at all. -/
theorem parse?_eq (h : IsName cs) (read : parse? cs = some host) : host = .name cs := by
  have text : (Text.Utf8.decodeLossy (Text.Percent.decode cs)).toList = cs := by
    have plain : '%' ∉ cs := fun hc => (isNameChar_facts (h.chars _ hc)).2.2.2.1 rfl
    rw [Text.Percent.decode_of_plain plain, Text.Utf8.decodeLossy_encode, String.toList_ofList]
  have open? : parse? cs = domain? cs := by
    unfold parse?
    split
    · rename_i rest
      exact absurd rfl (isNameChar_facts (h.chars '[' List.mem_cons_self)).2.2.2.2.2.2.1
    · rfl
  rw [open?] at read
  unfold domain? at read
  rw [text] at read
  simp only [Option.bind_eq_bind, Option.bind_eq_some_iff] at read
  obtain ⟨ds, hds, read⟩ := read
  obtain rfl := Idna.toAscii?_eq h.isSmall hds
  rw [h.endsInNumber] at read
  split at read
  · cases read
  · exact (Option.some.inj read).symm

/-! ## Ports -/

theorem isDigit_of_mem_writeNat (h : c ∈ writeNat n) : c.isDigit = true :=
  Nat.isDigit_of_mem_toDigits (by decide) (by decide) h

theorem value_writeNat (n : Nat) : (writeNat n).foldl (fun n c => n * 10 + (c.toNat - 48)) 0 = n := by
  have value := Nat.ofDigitChars_ten_toDigits (n := n)
  unfold Nat.ofDigitChars at value
  have same : (fun (n : Nat) (c : Char) => n * 10 + (c.toNat - 48)) = fun n c => 10 * n + (c.toNat - '0'.toNat) := by
    funext n c
    rw [Nat.mul_comm]
    rfl
  rw [same]
  exact value

theorem writeNat_injective {m : Nat} (h : writeNat n = writeNat m) : n = m := by
  rw [← value_writeNat n, h, value_writeNat]

/-- **A port is the number that it spells**, if it is small enough, and the scheme's own counts as none. -/
theorem port?_writeNat {scheme : Scheme} {port : Option Nat} (read : Url.port? scheme (some (writeNat n)) = some port) :
    port = if n = scheme.defaultPort then none else some n := by
  have digits : (writeNat n).all Char.isDigit = true := List.all_eq_true.2 fun c hc => isDigit_of_mem_writeNat hc
  have nonempty : writeNat n ≠ [] := Nat.toDigits_ne_nil
  rw [Url.port?.eq_3 _ _ nonempty, if_pos digits, value_writeNat] at read
  simp only at read
  split at read
  · exact (Option.some.inj read).symm
  · cases read

end SearchDomain.Http.Host
