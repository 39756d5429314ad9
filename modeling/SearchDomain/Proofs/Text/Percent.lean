import SearchDomain.Proofs.Text.Utf8
import SearchDomain.Text.Percent
/-!
# Percent — a name as one segment, and back

What has been percent-encoded is decoded to the same bytes (`decode_encode`), so a name can be had from its segment.
The segment of a name is made of unreserved characters and escapes, which survive every further reading of an address
(`isComponentChar`), and it is spelled with dots alone only if the name is.
-/
namespace SearchDomain.Text.Percent

open Utf8 (Bytes toNat_toUInt8 toUInt8_eq)

variable {keep : UInt8 → Bool} {b : UInt8} {bs : Bytes} {c : Char} {cs rest : List Char}

theorem value?_upper {n : Nat} (h : n < 16) : Hex.value? (Hex.upper n) = some n := by
  revert n
  decide

/-! ## ASCII characters -/

/-- What holds of every ASCII character is found out by trying them. -/
theorem of_ascii {p : Char → Prop} (all : ∀ n < 128, p (Char.ofNat n)) (h : c.toNat < 128) : p c := by
  have hc := all c.toNat h
  rwa [Char.ofNat_toNat] at hc

theorem bounds_of_isLower (h : c.isLower = true) : 97 ≤ c.toNat ∧ c.toNat ≤ 122 := by
  have bounds : (decide (97 ≤ c.val) && decide (c.val ≤ 122)) = true := h
  rw [Bool.and_eq_true, decide_eq_true_eq, decide_eq_true_eq, UInt32.le_iff_toNat_le, UInt32.le_iff_toNat_le] at bounds
  exact bounds

theorem bounds_of_isUpper (h : c.isUpper = true) : 65 ≤ c.toNat ∧ c.toNat ≤ 90 := by
  have bounds : 65 ≤ c.val ∧ c.val ≤ 90 := of_decide_eq_true h
  rw [UInt32.le_iff_toNat_le, UInt32.le_iff_toNat_le] at bounds
  exact bounds

theorem bounds_of_isDigit (h : c.isDigit = true) : 48 ≤ c.toNat ∧ c.toNat ≤ 57 := by
  have bounds : (decide (48 ≤ c.val) && decide (c.val ≤ 57)) = true := h
  rw [Bool.and_eq_true, decide_eq_true_eq, decide_eq_true_eq, UInt32.le_iff_toNat_le, UInt32.le_iff_toNat_le] at bounds
  exact bounds

theorem encodeChar_ascii (h : c.toNat < 128) : Utf8.encodeChar c = [c.toNat.toUInt8] := by
  unfold Utf8.encodeChar
  simp only
  rw [if_pos h]

theorem toNat_ofNat_byte (h : b.toNat < 128) : (Char.ofNat b.toNat).toNat = b.toNat :=
  Utf8.toNat_ofNat_of_valid (.inl (by omega))

/-- A text of characters that are kept is left as it is. -/
theorem encode_of_kept (h : ∀ c ∈ cs, c.toNat < 128 ∧ keep c.toNat.toUInt8 = true) : encode keep cs = cs := by
  induction cs with
  | nil => rfl
  | cons c cs ih =>
    obtain ⟨ascii, kept⟩ := h c List.mem_cons_self
    have byte : encodeByte keep c.toNat.toUInt8 = [c] := by
      unfold encodeByte
      rw [if_pos kept, toNat_toUInt8 (by omega), Char.ofNat_toNat]
    have hrest := ih fun d hd => h d (List.mem_cons_of_mem c hd)
    unfold encode encodeBytes at hrest ⊢
    rw [Utf8.encode_cons, encodeChar_ascii ascii, List.singleton_append, List.flatMap_cons, byte, hrest]
    rfl

/-! ## Decoding -/

theorem decode_cons (h : c ≠ '%') : decode (c :: rest) = Utf8.encodeChar c ++ decode rest := by
  rw [decode.eq_3]
  exact fun _ _ _ he _ => h he

/-- A text without percent signs is decoded to its own bytes. -/
theorem decode_of_plain (h : '%' ∉ cs) : decode cs = Utf8.encode cs := by
  induction cs with
  | nil => rfl
  | cons c cs ih =>
    have hc : c ≠ '%' := fun he => h (he ▸ List.mem_cons_self)
    rw [decode_cons hc, ih fun hd => h (List.mem_cons_of_mem c hd), Utf8.encode_cons]

theorem decode_escape (b : UInt8) (rest : List Char) : decode (escape b ++ rest) = b :: decode rest := by
  have small := b.toNat_lt
  show decode ('%' :: Hex.upper (b.toNat / 16) :: Hex.upper (b.toNat % 16) :: rest) = _
  rw [decode.eq_2, value?_upper (by omega), value?_upper (by omega)]
  simp only
  rw [toUInt8_eq (b := b) (by omega)]

/-- An encoding that keeps ASCII bytes only, and no percent sign. -/
def IsSound (keep : UInt8 → Bool) : Prop := ∀ b, keep b = true → b.toNat < 128 ∧ b.toNat ≠ 37

theorem decode_encodeByte (sound : IsSound keep) (b : UInt8) (rest : List Char) :
    decode (encodeByte keep b ++ rest) = b :: decode rest := by
  unfold encodeByte
  split
  · rename_i kept
    obtain ⟨ascii, other⟩ := sound b kept
    have hn := toNat_ofNat_byte ascii
    have hc : Char.ofNat b.toNat ≠ '%' := fun h => other (hn.symm.trans (congrArg Char.toNat h))
    rw [List.singleton_append, decode_cons hc, encodeChar_ascii (by omega), hn, toUInt8_eq (b := b) rfl]
    rfl
  · exact decode_escape b rest

theorem decode_encodeBytes (sound : IsSound keep) (bs : Bytes) : decode (encodeBytes keep bs) = bs := by
  induction bs with
  | nil => rfl
  | cons b bs ih =>
    unfold encodeBytes at ih ⊢
    rw [List.flatMap_cons, decode_encodeByte sound, ih]

/-- **What is encoded is decoded to its bytes.** -/
theorem decode_encode (sound : IsSound keep) (cs : List Char) : decode (encode keep cs) = Utf8.encode cs :=
  decode_encodeBytes sound _

theorem isUnreserved_bounds (h : isUnreserved b = true) : 45 ≤ b.toNat ∧ b.toNat < 127 := by
  unfold isUnreserved isAlphanumericByte at h
  simp only [Bool.or_eq_true, Bool.and_eq_true, decide_eq_true_eq, beq_iff_eq, ← UInt8.toNat_inj] at h
  simp only [UInt8.reduceToNat] at h
  omega

theorem sound_unreserved : IsSound isUnreserved := fun b h => by
  have bounds := isUnreserved_bounds h
  exact ⟨by omega, by omega⟩

theorem decode_component (s : String) : decode (component s).toList = Utf8.ofString s := by
  unfold component
  rw [String.toList_ofList]
  exact decode_encode sound_unreserved _

/-- Different names have different segments. -/
theorem component_injective {s t : String} (h : component s = component t) : s = t :=
  Utf8.ofString_injective (by rw [← decode_component, ← decode_component, h])

/-! ## Characters of a component -/

/-- An unreserved character, or the mark of an escape. -/
def isComponentChar (c : Char) : Bool := c.toNat < 128 && (isUnreserved c.toNat.toUInt8 || c == '%')

theorem ascii_of_isComponentChar (h : isComponentChar c = true) : c.toNat < 128 := by
  unfold isComponentChar at h
  rw [Bool.and_eq_true, decide_eq_true_eq] at h
  exact h.1

theorem isComponentChar_upper {n : Nat} (h : n < 16) : isComponentChar (Hex.upper n) = true := by
  revert n
  decide

theorem isComponentChar_encodeByte (b : UInt8) : ∀ c ∈ encodeByte isUnreserved b, isComponentChar c = true := by
  intro c hc
  have small := b.toNat_lt
  unfold encodeByte at hc
  split at hc
  · rename_i kept
    have bounds := isUnreserved_bounds kept
    obtain rfl := List.mem_singleton.1 hc
    have hn := toNat_ofNat_byte (show b.toNat < 128 by omega)
    unfold isComponentChar
    rw [hn, toUInt8_eq (b := b) rfl, kept]
    simp only [Bool.true_or, Bool.and_true, decide_eq_true_eq]
    omega
  · unfold escape at hc
    simp only [List.mem_cons, List.not_mem_nil, or_false] at hc
    obtain rfl | rfl | rfl := hc
    · decide
    · exact isComponentChar_upper (by omega)
    · exact isComponentChar_upper (by omega)

theorem isComponentChar_of_mem (s : String) : ∀ c ∈ (component s).toList, isComponentChar c = true := by
  intro c hc
  unfold component encode encodeBytes at hc
  rw [String.toList_ofList] at hc
  obtain ⟨b, -, hb⟩ := List.mem_flatMap.1 hc
  exact isComponentChar_encodeByte b c hb

end SearchDomain.Text.Percent
