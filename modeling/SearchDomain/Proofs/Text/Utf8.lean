import SearchDomain.Text.Utf8
/-!
# Utf8 — the bytes of a text, and no others, are read as it

The reading machine takes the bytes of each character off the front, whatever follows (`piecesFrom_encodeChar`), and
what it takes for a character is spelled in no other way (`eq_encode_of_pieces`). So bytes are read as a text exactly if
they are the bytes of that text (`decode_ok_iff`), and different texts have different bytes (`ofString_injective`).
-/
namespace SearchDomain.Text.Utf8

variable {bs rest : Bytes} {cs : List Char} {b : UInt8} {n : Nat}

theorem isValidChar_toNat (c : Char) : c.toNat.isValidChar := c.valid

theorem toNat_ofNat_of_valid (h : n.isValidChar) : (Char.ofNat n).toNat = n := by
  have valid : Char.ofNat n = Char.ofNatAux n h := dif_pos h
  rw [valid]
  rfl

theorem toUInt8_eq (h : n = b.toNat) : n.toUInt8 = b := by
  rw [h]
  exact UInt8.ofNat_toNat

theorem toNat_toUInt8 (h : n < 256) : n.toUInt8.toNat = n := by
  show (UInt8.ofNat n).toNat = n
  rw [UInt8.toNat_ofNat', Nat.mod_eq_of_lt h]

/-! ## Pieces -/

/-- A strict reading succeeds exactly on characters. -/
theorem strict_ok_iff {ps : List Piece} {i : Nat} : strict i ps = .ok cs ↔ ps = cs.map .char := by
  induction ps generalizing cs i with
  | nil =>
    unfold strict
    rw [Except.ok.injEq, eq_comm, eq_comm (a := []), List.map_eq_nil_iff]
  | cons p ps ih =>
    rw [eq_comm (a := p :: ps), List.map_eq_cons_iff]
    cases p with
    | char c =>
      unfold strict
      constructor
      · intro h
        cases hs : strict (i + c.utf8Size) ps with
        | error e =>
          rw [hs] at h
          cases h
        | ok cs' =>
          rw [hs] at h
          cases h
          exact ⟨c, cs', rfl, rfl, (ih.1 hs).symm⟩
      · rintro ⟨_, cs', rfl, hc, hps⟩
        cases hc
        rw [ih.2 hps.symm]
        rfl
    | malformed _ => exact ⟨(fun h => nomatch h), fun ⟨_, _, _, h, _⟩ => nomatch h⟩
    | truncated _ => exact ⟨(fun h => nomatch h), fun ⟨_, _, _, h, _⟩ => nomatch h⟩

theorem piecesFrom_cons (pending : Option Partial) (b : UInt8) (rest : Bytes) :
    piecesFrom pending (b :: rest) = (step pending b.toNat).1 ++ piecesFrom (step pending b.toNat).2 rest := rfl

/-! What a first byte opens, one statement per class. -/

theorem piecesFrom_one (h : b.toNat < 0x80) :
    piecesFrom none (b :: rest) = .char (Char.ofNat b.toNat) :: piecesFrom none rest := by
  rw [piecesFrom_cons]
  unfold step lead
  rw [if_pos h]
  rfl

theorem piecesFrom_two (h : 0xC2 ≤ b.toNat) (h' : b.toNat < 0xE0) :
    piecesFrom none (b :: rest) = piecesFrom (some ⟨b.toNat - 0xC0, 1, 1, 0x80, 0xBF⟩) rest := by
  rw [piecesFrom_cons]
  unfold step lead
  rw [if_neg (by omega), if_neg (by omega), if_pos h']
  rfl

theorem piecesFrom_three (h : 0xE0 ≤ b.toNat) (h' : b.toNat < 0xF0) :
    piecesFrom none (b :: rest) =
      piecesFrom (some ⟨b.toNat - 0xE0, 1, 2, if b.toNat = 0xE0 then 0xA0 else 0x80,
        if b.toNat = 0xED then 0x9F else 0xBF⟩) rest := by
  rw [piecesFrom_cons]
  unfold step lead
  rw [if_neg (by omega), if_neg (by omega), if_neg (by omega), if_pos h']
  rfl

theorem piecesFrom_four (h : 0xF0 ≤ b.toNat) (h' : b.toNat < 0xF5) :
    piecesFrom none (b :: rest) =
      piecesFrom (some ⟨b.toNat - 0xF0, 1, 3, if b.toNat = 0xF0 then 0x90 else 0x80,
        if b.toNat = 0xF4 then 0x8F else 0xBF⟩) rest := by
  rw [piecesFrom_cons]
  unfold step lead
  rw [if_neg (by omega), if_neg (by omega), if_neg (by omega), if_neg (by omega), if_pos h']
  rfl

theorem piecesFrom_stray (h : 0x80 ≤ b.toNat) (h' : b.toNat < 0xC2 ∨ 0xF5 ≤ b.toNat) :
    piecesFrom none (b :: rest) = .malformed 1 :: piecesFrom none rest := by
  rw [piecesFrom_cons]
  unfold step lead
  rw [if_neg (by omega)]
  obtain h' | h' := h'
  · rw [if_pos h']
    rfl
  · rw [if_neg (by omega), if_neg (by omega), if_neg (by omega), if_neg (by omega)]
    rfl

/-! What a byte in range adds to a sequence. -/

theorem piecesFrom_last {p : Partial} (low : p.low ≤ b.toNat) (high : b.toNat ≤ p.high) (left : p.left = 1) :
    piecesFrom (some p) (b :: rest) = .char (Char.ofNat
      (p.code * 0x40 + (b.toNat - 0x80))) :: piecesFrom none rest := by
  rw [piecesFrom_cons]
  unfold step
  simp only [if_pos (And.intro low high), left, Nat.le_refl, if_true, List.cons_append, List.nil_append]

theorem piecesFrom_next {p : Partial} (low : p.low ≤ b.toNat) (high : b.toNat ≤ p.high) (left : 1 < p.left) :
    piecesFrom (some p) (b :: rest) =
      piecesFrom (some ⟨p.code * 0x40 + (b.toNat - 0x80), p.seen + 1, p.left - 1, 0x80, 0xBF⟩) rest := by
  rw [piecesFrom_cons]
  unfold step
  simp only [if_pos (And.intro low high), if_neg (Nat.not_le.2 left), List.nil_append]

/-- What is read as characters goes on with the sequence that has begun. -/
theorem continues {p : Partial} (h : piecesFrom (some p) bs = cs.map .char) :
    ∃ b rest, bs = b :: rest ∧ p.low ≤ b.toNat ∧ b.toNat ≤ p.high := by
  cases bs with
  | nil => cases cs <;> cases h
  | cons b rest =>
    refine ⟨b, rest, rfl, Classical.not_not.1 fun out => ?_⟩
    rw [piecesFrom_cons] at h
    unfold step at h
    simp only [if_neg out] at h
    cases cs <;> cases h

theorem continues_last {p : Partial} (left : p.left = 1) (h : piecesFrom (some p) bs = cs.map .char) :
    ∃ b rest cs', bs = b :: rest ∧ cs = Char.ofNat (p.code * 0x40 + (b.toNat - 0x80)) :: cs' ∧
      p.low ≤ b.toNat ∧ b.toNat ≤ p.high ∧ piecesFrom none rest = cs'.map .char := by
  obtain ⟨b, rest, rfl, low, high⟩ := continues h
  rw [piecesFrom_last low high left, eq_comm, List.map_eq_cons_iff] at h
  obtain ⟨c, cs', rfl, hc, hrest⟩ := h
  exact ⟨b, rest, cs', rfl, by rw [Piece.char.inj hc], low, high, hrest.symm⟩

theorem continues_next {p : Partial} (left : 1 < p.left) (h : piecesFrom (some p) bs = cs.map .char) :
    ∃ b rest, bs = b :: rest ∧ p.low ≤ b.toNat ∧ b.toNat ≤ p.high ∧
      piecesFrom (some ⟨p.code * 0x40 + (b.toNat - 0x80), p.seen + 1, p.left - 1, 0x80, 0xBF⟩) rest =
        cs.map .char := by
  obtain ⟨b, rest, rfl, low, high⟩ := continues h
  rw [piecesFrom_next low high left] at h
  exact ⟨b, rest, rfl, low, high, h⟩

/-! ## Writing and reading back -/

/-- **The bytes of a character are read as it**, whatever follows. -/
theorem piecesFrom_encodeChar (c : Char) (rest : Bytes) :
    piecesFrom none (encodeChar c ++ rest) = .char c :: piecesFrom none rest := by
  have valid := isValidChar_toNat c
  have hc := Char.ofNat_toNat c
  generalize hn : c.toNat = n at valid hc
  unfold Nat.isValidChar at valid
  unfold encodeChar
  simp only [hn]
  by_cases h₁ : n < 0x80
  · have b := toNat_toUInt8 (show n < 256 by omega)
    rw [if_pos h₁, List.singleton_append, piecesFrom_one (by omega), b, hc]
  by_cases h₂ : n < 0x800
  · have b := toNat_toUInt8 (show 0xC0 + n / 0x40 < 256 by omega)
    have b₁ := toNat_toUInt8 (show 0x80 + n % 0x40 < 256 by omega)
    rw [if_neg h₁, if_pos h₂, List.cons_append, List.cons_append, List.nil_append,
      piecesFrom_two (by omega) (by omega),
      piecesFrom_last (by simp only; omega) (by simp only; omega) rfl, b, b₁]
    simp only
    rw [show (0xC0 + n / 0x40 - 0xC0) * 0x40 + (0x80 + n % 0x40 - 0x80) = n by omega, hc]
  by_cases h₃ : n < 0x10000
  · have b := toNat_toUInt8 (show 0xE0 + n / 0x1000 < 256 by omega)
    have b₁ := toNat_toUInt8 (show 0x80 + n / 0x40 % 0x40 < 256 by omega)
    have b₂ := toNat_toUInt8 (show 0x80 + n % 0x40 < 256 by omega)
    rw [if_neg h₁, if_neg h₂, if_pos h₃, List.cons_append, List.cons_append, List.cons_append, List.nil_append,
      piecesFrom_three (by omega) (by omega),
      piecesFrom_next (by simp only; split <;> omega) (by simp only; split <;> omega) (by simp only; omega),
      piecesFrom_last (by simp only; omega) (by simp only; omega) rfl, b, b₁, b₂]
    simp only
    rw [show ((0xE0 + n / 0x1000 - 0xE0) * 0x40 + (0x80 + n / 0x40 % 0x40 - 0x80)) * 0x40 +
      (0x80 + n % 0x40 - 0x80) = n by omega, hc]
  · have b := toNat_toUInt8 (show 0xF0 + n / 0x40000 < 256 by omega)
    have b₁ := toNat_toUInt8 (show 0x80 + n / 0x1000 % 0x40 < 256 by omega)
    have b₂ := toNat_toUInt8 (show 0x80 + n / 0x40 % 0x40 < 256 by omega)
    have b₃ := toNat_toUInt8 (show 0x80 + n % 0x40 < 256 by omega)
    rw [if_neg h₁, if_neg h₂, if_neg h₃, List.cons_append, List.cons_append, List.cons_append, List.cons_append,
      List.nil_append, piecesFrom_four (by omega) (by omega),
      piecesFrom_next (by simp only; split <;> omega) (by simp only; split <;> omega) (by simp only; omega),
      piecesFrom_next (by simp only; omega) (by simp only; omega) (by simp only; omega),
      piecesFrom_last (by simp only; omega) (by simp only; omega) rfl, b, b₁, b₂, b₃]
    simp only
    rw [show (((0xF0 + n / 0x40000 - 0xF0) * 0x40 + (0x80 + n / 0x1000 % 0x40 - 0x80)) * 0x40 +
      (0x80 + n / 0x40 % 0x40 - 0x80)) * 0x40 + (0x80 + n % 0x40 - 0x80) = n by omega, hc]

/-- **What is read as a character is spelled as it**: bytes that are read as characters only are none, or the bytes of
the first character and such bytes again. -/
theorem eq_encodeChar_of_pieces (h : piecesFrom none bs = cs.map .char) :
    bs = [] ∧ cs = [] ∨
      ∃ c cs' rest, cs = c :: cs' ∧ bs = encodeChar c ++ rest ∧ piecesFrom none rest = cs'.map .char := by
  cases bs with
  | nil => exact .inl ⟨rfl, List.map_eq_nil_iff.1 h.symm⟩
  | cons b rest =>
    refine .inr ?_
    have small := b.toNat_lt
    by_cases h₁ : b.toNat < 0x80
    · rw [piecesFrom_one h₁, eq_comm, List.map_eq_cons_iff] at h
      obtain ⟨c, cs', rfl, hc, hrest⟩ := h
      cases hc
      refine ⟨_, cs', rest, rfl, ?_, hrest.symm⟩
      unfold encodeChar
      simp only [toNat_ofNat_of_valid (show b.toNat.isValidChar from .inl (by omega))]
      rw [if_pos h₁, toUInt8_eq (b := b) rfl, List.singleton_append]
    by_cases stray : b.toNat < 0xC2 ∨ 0xF5 ≤ b.toNat
    · rw [piecesFrom_stray (by omega) stray] at h
      cases cs <;> cases h
    by_cases h₂ : b.toNat < 0xE0
    · rw [piecesFrom_two (by omega) h₂] at h
      obtain ⟨b₁, rest, cs', rfl, rfl, low, high, hrest⟩ := continues_last rfl h
      simp only at low high
      refine ⟨_, cs', rest, rfl, ?_, hrest⟩
      unfold encodeChar
      simp only
      generalize hn : (b.toNat - 0xC0) * 0x40 + (b₁.toNat - 0x80) = n
      simp only [toNat_ofNat_of_valid (show n.isValidChar from .inl (by omega))]
      rw [if_neg (by omega), if_pos (by omega), toUInt8_eq (b := b) (by omega), toUInt8_eq (b := b₁) (by omega)]
      rfl
    by_cases h₃ : b.toNat < 0xF0
    · rw [piecesFrom_three (by omega) h₃] at h
      obtain ⟨b₁, rest, rfl, low₁, high₁, h⟩ := continues_next (by simp only; omega) h
      obtain ⟨b₂, rest, cs', rfl, rfl, low, high, hrest⟩ := continues_last rfl h
      simp only at low₁ high₁ low high
      refine ⟨_, cs', rest, rfl, ?_, hrest⟩
      unfold encodeChar
      simp only
      generalize hn : ((b.toNat - 0xE0) * 0x40 + (b₁.toNat - 0x80)) * 0x40 + (b₂.toNat - 0x80) = n
      have valid : n.isValidChar := by
        unfold Nat.isValidChar
        split at low₁ <;> split at high₁ <;> omega
      have big : 0x800 ≤ n := by split at low₁ <;> split at high₁ <;> omega
      have low₁ : 0x80 ≤ b₁.toNat := by split at low₁ <;> omega
      have high₁ : b₁.toNat ≤ 0xBF := by split at high₁ <;> omega
      simp only [toNat_ofNat_of_valid valid]
      rw [if_neg (by omega), if_neg (by omega), if_pos (by omega), toUInt8_eq (b := b) (by omega),
        toUInt8_eq (b := b₁) (by omega), toUInt8_eq (b := b₂) (by omega)]
      rfl
    · rw [piecesFrom_four (by omega) (by omega)] at h
      obtain ⟨b₁, rest, rfl, low₁, high₁, h⟩ := continues_next (by simp only; omega) h
      obtain ⟨b₂, rest, rfl, low₂, high₂, h⟩ := continues_next (by simp only; omega) h
      obtain ⟨b₃, rest, cs', rfl, rfl, low, high, hrest⟩ := continues_last rfl h
      simp only at low₁ high₁ low₂ high₂ low high
      refine ⟨_, cs', rest, rfl, ?_, hrest⟩
      unfold encodeChar
      simp only
      generalize hn : (((b.toNat - 0xF0) * 0x40 + (b₁.toNat - 0x80)) * 0x40 + (b₂.toNat - 0x80)) * 0x40 +
        (b₃.toNat - 0x80) = n
      have valid : n.isValidChar := by
        unfold Nat.isValidChar
        split at low₁ <;> split at high₁ <;> omega
      have big : 0x10000 ≤ n := by split at low₁ <;> split at high₁ <;> omega
      have low₁ : 0x80 ≤ b₁.toNat := by split at low₁ <;> omega
      have high₁ : b₁.toNat ≤ 0xBF := by split at high₁ <;> omega
      simp only [toNat_ofNat_of_valid valid]
      rw [if_neg (by omega), if_neg (by omega), if_neg (by omega), toUInt8_eq (b := b) (by omega),
        toUInt8_eq (b := b₁) (by omega), toUInt8_eq (b := b₂) (by omega), toUInt8_eq (b := b₃) (by omega)]
      rfl

/-! ## Texts -/

theorem encode_cons (c : Char) (cs : List Char) : encode (c :: cs) = encodeChar c ++ encode cs := rfl

theorem ofString_append (s t : String) : ofString (s ++ t) = ofString s ++ ofString t := by
  unfold ofString encode
  rw [String.toList_append, List.flatMap_append]

/-- Bytes below 128 stand for themselves only. -/
theorem toNat_of_mem_encodeChar {c : Char} (h : b ∈ encodeChar c) (ascii : b.toNat < 0x80) : c.toNat = b.toNat := by
  have high : ∀ {n : Nat}, 0x80 ≤ n → n < 0x100 → b = n.toUInt8 → c.toNat = b.toNat := by
    rintro n low small rfl
    rw [toNat_toUInt8 small] at ascii
    omega
  have valid := isValidChar_toNat c
  unfold Nat.isValidChar at valid
  unfold encodeChar at h
  simp only at h
  split at h
  · rw [List.mem_singleton.1 h, toNat_toUInt8 (by omega)]
  split at h
  · simp only [List.mem_cons, List.not_mem_nil, or_false] at h
    obtain h | h := h <;> exact high (by omega) (by omega) h
  split at h
  · simp only [List.mem_cons, List.not_mem_nil, or_false] at h
    obtain h | h | h := h <;> exact high (by omega) (by omega) h
  · simp only [List.mem_cons, List.not_mem_nil, or_false] at h
    obtain h | h | h | h := h <;> exact high (by omega) (by omega) h

/-- An ASCII character whose byte is among those of a text is in the text. -/
theorem mem_of_mem_ofString {s : String} {c : Char} (ascii : c.toNat < 0x80) (h : c.toNat.toUInt8 ∈ ofString s) :
    c ∈ s.toList := by
  obtain ⟨d, hd, hc⟩ := List.mem_flatMap.1 h
  have byte := toNat_toUInt8 (show c.toNat < 256 by omega)
  have same := toNat_of_mem_encodeChar hc (by omega)
  rw [byte] at same
  have he := congrArg Char.ofNat same
  rw [Char.ofNat_toNat, Char.ofNat_toNat] at he
  exact he ▸ hd

theorem piecesFrom_encode (cs : List Char) : piecesFrom none (encode cs) = cs.map .char := by
  induction cs with
  | nil => rfl
  | cons c cs ih => rw [encode_cons, piecesFrom_encodeChar, ih, List.map_cons]

theorem decodeLossy_encode (cs : List Char) : decodeLossy (encode cs) = String.ofList cs := by
  have lenient : (cs.map Piece.char).map Piece.lenient = cs := by
    rw [List.map_map]
    exact List.map_id cs
  unfold decodeLossy pieces
  rw [piecesFrom_encode, lenient]

theorem eq_encode_of_pieces (h : piecesFrom none bs = cs.map .char) : bs = encode cs := by
  induction cs generalizing bs with
  | nil =>
    obtain ⟨rfl, -⟩ | ⟨_, _, _, h, -⟩ := eq_encodeChar_of_pieces h
    · rfl
    · cases h
  | cons c cs ih =>
    obtain ⟨-, h⟩ | ⟨_, _, rest, hcs, rfl, hrest⟩ := eq_encodeChar_of_pieces h
    · cases h
    · cases hcs
      rw [ih hrest, encode_cons]

/-- **Bytes are read as a text exactly if they are its bytes.** -/
theorem decode_ok_iff {s : String} : decode bs = .ok s ↔ bs = ofString s := by
  unfold decode pieces ofString
  constructor
  · intro h
    cases hs : strict 0 (piecesFrom none bs) with
    | error e =>
      rw [hs] at h
      cases h
    | ok cs =>
      rw [hs] at h
      cases h
      rw [String.toList_ofList]
      exact eq_encode_of_pieces (strict_ok_iff.1 hs)
  · rintro rfl
    rw [strict_ok_iff.2 (piecesFrom_encode s.toList)]
    show Except.ok (String.ofList s.toList) = _
    rw [String.ofList_toList]

theorem decode_ofString (s : String) : decode (ofString s) = .ok s := decode_ok_iff.2 rfl

/-- Different texts have different bytes. -/
theorem ofString_injective {s t : String} (h : ofString s = ofString t) : s = t :=
  Except.ok.inj ((decode_ofString s).symm.trans (h ▸ decode_ofString t))

end SearchDomain.Text.Utf8
