import SearchDomain.Proofs.Text.Utf8
import SearchDomain.Text.Base64
/-!
# Base64 — bytes have one spelling, and it is read as them

A digit is read as its value, and a character that is read has been spelled as the digit of its value. Group by group
it follows that a text is read as some bytes exactly if it is their spelling (`decode_eq_some_iff`).
-/
namespace SearchDomain.Text.Base64

open Utf8 (Bytes toNat_toUInt8 toUInt8_eq)

/-! ## Digits -/

theorem value?_digit {n : Nat} (h : n < 64) : value? (digit n) = some n := by
  revert n
  decide

theorem digit_ne_pad {n : Nat} (h : n < 64) : digit n ≠ '=' := by
  revert n
  decide

theorem eq_digit_of_value? {c : Char} {n : Nat} (h : value? c = some n) : c = digit n ∧ n < 64 := by
  have hc := Char.ofNat_toNat c
  unfold value? at h
  simp only at h
  unfold digit
  split at h
  · cases h
    rw [if_pos (by omega), show 65 + (c.toNat - 65) = c.toNat by omega, hc]
    exact ⟨rfl, by omega⟩
  split at h
  · cases h
    rw [if_neg (by omega), if_pos (by omega), show 71 + (c.toNat - 71) = c.toNat by omega, hc]
    exact ⟨rfl, by omega⟩
  split at h
  · cases h
    rw [if_neg (by omega), if_neg (by omega), if_pos (by omega), show c.toNat + 4 - 4 = c.toNat by omega, hc]
    exact ⟨rfl, by omega⟩
  split at h
  · rename_i plus
    cases h
    exact ⟨plus, by decide⟩
  split at h
  · rename_i slash
    cases h
    exact ⟨slash, by decide⟩
  · cases h

/-! ## Groups -/

theorem decode_encode (bs : Bytes) : decode (encode bs) = some bs := by
  fun_induction encode bs with
  | case1 => rfl
  | case2 a =>
    have small := a.toNat_lt
    rw [decode, value?_digit (by omega), value?_digit (by omega)]
    simp only [Option.bind_eq_bind, Option.bind_some]
    rw [if_pos (by omega), toUInt8_eq (b := a) (by omega)]
  | case3 a b =>
    have small := a.toNat_lt
    have small' := b.toNat_lt
    rw [decode.eq_3 _ _ _ (digit_ne_pad (by omega)), value?_digit (by omega), value?_digit (by omega),
      value?_digit (by omega)]
    simp only [Option.bind_eq_bind, Option.bind_some]
    rw [if_pos (by omega), toUInt8_eq (b := a) (by omega), toUInt8_eq (b := b) (by omega)]
  | case4 a b c rest ih =>
    have small := a.toNat_lt
    have small' := b.toNat_lt
    have small'' := c.toNat_lt
    have pad := digit_ne_pad (show c.toNat % 64 < 64 by omega)
    rw [decode.eq_4 _ _ _ _ _ (fun _ h _ => pad h) (fun h _ => pad h), value?_digit (by omega),
      value?_digit (by omega), value?_digit (by omega), value?_digit (by omega), ih]
    simp only [Option.bind_eq_bind, Option.bind_some]
    rw [toUInt8_eq (b := a) (by omega), toUInt8_eq (b := b) (by omega), toUInt8_eq (b := c) (by omega)]

/-- Nothing is written but digits and the padding. -/
theorem mem_encode {bs : Bytes} {d : Char} (h : d ∈ encode bs) : d = '=' ∨ ∃ n < 64, d = digit n := by
  fun_induction encode bs with
  | case1 => cases h
  | case2 a =>
    have small := a.toNat_lt
    simp only [List.mem_cons, List.not_mem_nil, or_false, or_self] at h
    obtain rfl | rfl | rfl := h
    · exact .inr ⟨_, by omega, rfl⟩
    · exact .inr ⟨_, by omega, rfl⟩
    · exact .inl rfl
  | case3 a b =>
    have small := a.toNat_lt
    have small' := b.toNat_lt
    simp only [List.mem_cons, List.not_mem_nil, or_false] at h
    obtain rfl | rfl | rfl | rfl := h
    · exact .inr ⟨_, by omega, rfl⟩
    · exact .inr ⟨_, by omega, rfl⟩
    · exact .inr ⟨_, by omega, rfl⟩
    · exact .inl rfl
  | case4 a b c rest ih =>
    have small := a.toNat_lt
    have small' := b.toNat_lt
    have small'' := c.toNat_lt
    simp only [List.mem_cons] at h
    obtain rfl | rfl | rfl | rfl | h := h
    · exact .inr ⟨_, by omega, rfl⟩
    · exact .inr ⟨_, by omega, rfl⟩
    · exact .inr ⟨_, by omega, rfl⟩
    · exact .inr ⟨_, by omega, rfl⟩
    · exact ih h

theorem eq_encode_of_decode {cs : List Char} {bs : Bytes} (h : decode cs = some bs) : cs = encode bs := by
  induction cs using decode.induct generalizing bs with
  | case1 =>
    cases h
    rfl
  | case2 p q =>
    simp only [decode, Option.bind_eq_bind, Option.bind_eq_some_iff, Option.ite_none_right_eq_some,
      Option.some.injEq] at h
    obtain ⟨x, hx, y, hy, whole, rfl⟩ := h
    obtain ⟨rfl, x_lt⟩ := eq_digit_of_value? hx
    obtain ⟨rfl, y_lt⟩ := eq_digit_of_value? hy
    unfold encode
    rw [toNat_toUInt8 (by omega), show (x * 4 + y / 16) / 4 = x by omega,
      show (x * 4 + y / 16) % 4 * 16 = y by omega]
  | case3 p q r pad =>
    rw [decode.eq_3 _ _ _ pad] at h
    simp only [Option.bind_eq_bind, Option.bind_eq_some_iff, Option.ite_none_right_eq_some, Option.some.injEq] at h
    obtain ⟨x, hx, y, hy, z, hz, whole, rfl⟩ := h
    obtain ⟨rfl, x_lt⟩ := eq_digit_of_value? hx
    obtain ⟨rfl, y_lt⟩ := eq_digit_of_value? hy
    obtain ⟨rfl, z_lt⟩ := eq_digit_of_value? hz
    unfold encode
    rw [toNat_toUInt8 (by omega), toNat_toUInt8 (by omega), show (x * 4 + y / 16) / 4 = x by omega,
      show (x * 4 + y / 16) % 4 * 16 + (y % 16 * 16 + z / 4) / 16 = y by omega,
      show (y % 16 * 16 + z / 4) % 16 * 4 = z by omega]
  | case4 p q r s rest pads pad ih =>
    rw [decode.eq_4 _ _ _ _ _ pads pad] at h
    simp only [Option.bind_eq_bind, Option.bind_eq_some_iff, Option.some.injEq] at h
    obtain ⟨x, hx, y, hy, z, hz, w, hw, tail, htail, rfl⟩ := h
    obtain ⟨rfl, x_lt⟩ := eq_digit_of_value? hx
    obtain ⟨rfl, y_lt⟩ := eq_digit_of_value? hy
    obtain ⟨rfl, z_lt⟩ := eq_digit_of_value? hz
    obtain ⟨rfl, w_lt⟩ := eq_digit_of_value? hw
    rw [ih htail, encode.eq_4, toNat_toUInt8 (by omega), toNat_toUInt8 (by omega), toNat_toUInt8 (by omega),
      show (x * 4 + y / 16) / 4 = x by omega,
      show (x * 4 + y / 16) % 4 * 16 + (y % 16 * 16 + z / 4) / 16 = y by omega,
      show (y % 16 * 16 + z / 4) % 16 * 4 + (z % 4 * 64 + w) / 64 = z by omega,
      show (z % 4 * 64 + w) % 64 = w by omega]
  | case5 cs none one two more =>
    rw [decode.eq_5 _ none one two more] at h
    cases h

/-- **A text is read as some bytes exactly if it is their spelling.** -/
theorem decode_eq_some_iff {cs : List Char} {bs : Bytes} : decode cs = some bs ↔ cs = encode bs :=
  ⟨eq_encode_of_decode, fun h => h ▸ decode_encode bs⟩

end SearchDomain.Text.Base64
