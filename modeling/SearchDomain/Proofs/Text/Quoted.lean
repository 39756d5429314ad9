import Mathlib.Data.Nat.Digits.Defs
import SearchDomain.Text.Quoted
/-!
# Quoted — a quoted text tells the text

No character is quoted as the beginning of what another one is quoted as (`eq_of_quotedChar_append`), so texts that are
quoted alike are the same (`quoted_injective`).
-/
namespace SearchDomain.Text

theorem digitChar_inj : ∀ n < 16, ∀ m < 16, n.digitChar = m.digitChar → n = m := by decide

theorem digitChar_ne_brace : ∀ n < 16, n.digitChar ≠ '\x7d' := by decide

theorem hexDigits_step {n : Nat} (h : 16 ≤ n) : hexDigits n = hexDigits (n / 16) ++ [(n % 16).digitChar] :=
  Nat.toDigits_of_base_le (by omega) h

theorem hexDigits_small {n : Nat} (h : n < 16) : hexDigits n = [n.digitChar] := Nat.toDigits_of_lt_base h

theorem hexDigits_ne_nil (n : Nat) : hexDigits n ≠ [] := Nat.toDigits_ne_nil

theorem brace_not_mem_hexDigits (n : Nat) : '\x7d' ∉ hexDigits n := by
  induction n using Nat.strongRecOn with
  | ind n ih =>
    by_cases h : n < 16
    · rw [hexDigits_small h, List.mem_singleton]
      exact (digitChar_ne_brace n h).symm
    · rw [hexDigits_step (Nat.not_lt.1 h), List.mem_append, List.mem_singleton]
      rintro (hm | he)
      · exact ih (n / 16) (by omega) hm
      · exact digitChar_ne_brace _ (Nat.mod_lt _ (by omega)) he.symm

theorem hexDigits_injective {n m : Nat} (h : hexDigits n = hexDigits m) : n = m := by
  induction n using Nat.strongRecOn generalizing m with
  | ind n ih =>
    -- a number of one digit is not one of several
    have single : ∀ {a b : Nat}, a < 16 → 16 ≤ b → hexDigits a ≠ hexDigits b := fun ha hb he => by
      rw [hexDigits_small ha, hexDigits_step hb] at he
      exact hexDigits_ne_nil _ (List.append_eq_singleton_iff.1 he.symm |>.resolve_right fun h => by simp at h).1
    by_cases hn : n < 16 <;> by_cases hm : m < 16
    · rw [hexDigits_small hn, hexDigits_small hm] at h
      exact digitChar_inj n hn m hm (List.head_eq_of_cons_eq h)
    · exact absurd h (single hn (Nat.not_lt.1 hm))
    · exact absurd h.symm (single hm (Nat.not_lt.1 hn))
    · rw [hexDigits_step (Nat.not_lt.1 hn), hexDigits_step (Nat.not_lt.1 hm)] at h
      obtain ⟨hdiv, hmod⟩ := List.append_inj' h rfl
      have hdiv := ih (n / 16) (by omega) hdiv
      have hmod := digitChar_inj _ (Nat.mod_lt _ (by omega)) _ (Nat.mod_lt _ (by omega)) (List.head_eq_of_cons_eq hmod)
      omega

/-- The character that a letter after a backslash stands for. -/
def ofLetter? (e : Char) : Option Char :=
  if e = '0' then some '\x00'
  else if e = 't' then some '\t'
  else if e = 'r' then some '\r'
  else if e = 'n' then some '\n'
  else if e = '"' then some '"'
  else if e = '\\' then some '\\'
  else none

/-- The three ways to quote a character. -/
inductive Quotes (c : Char) : List Char → Prop
  | plain (backslash : c ≠ '\\') : Quotes c [c]
  | letter {e : Char} (letter : ofLetter? e = some c) : Quotes c ['\\', e]
  | code : Quotes c ('\\' :: 'u' :: '\x7b' :: (hexDigits c.toNat ++ ['\x7d']))

theorem quotes_quotedChar (c : Char) : Quotes c (quotedChar c) := by
  by_cases named : c = '\x00' ∨ c = '\t' ∨ c = '\r' ∨ c = '\n' ∨ c = '"' ∨ c = '\\'
  · rcases named with rfl | rfl | rfl | rfl | rfl | rfl <;> exact .letter (by decide)
  · simp only [not_or] at named
    obtain ⟨h₀, h₁, h₂, h₃, h₄, h₅⟩ := named
    unfold quotedChar
    rw [if_neg h₀, if_neg h₁, if_neg h₂, if_neg h₃, if_neg h₄, if_neg h₅]
    split
    · exact .code
    · exact .plain h₅

theorem Quotes.ne_nil {c : Char} {cs : List Char} (h : Quotes c cs) : cs ≠ [] := by
  cases h <;> simp

/-- What stands before the first closing brace is the same in equal texts. -/
theorem eq_of_append_brace {t u : List Char} : ∀ {cs ds : List Char}, '\x7d' ∉ cs → '\x7d' ∉ ds →
    cs ++ '\x7d' :: t = ds ++ '\x7d' :: u → cs = ds ∧ t = u
  | [], [], _, _, h => ⟨rfl, List.tail_eq_of_cons_eq h⟩
  | [], _ :: _, _, hd, h => absurd (List.head_eq_of_cons_eq h ▸ List.mem_cons_self) hd
  | _ :: _, [], hc, _, h => absurd (List.head_eq_of_cons_eq h ▸ List.mem_cons_self) hc
  | c :: cs, d :: ds, hc, hd, h => by
    obtain ⟨rfl, tail⟩ := List.cons.inj h
    obtain ⟨rfl, ht⟩ := eq_of_append_brace (fun hm => hc (List.mem_cons_of_mem _ hm))
      (fun hm => hd (List.mem_cons_of_mem _ hm)) tail
    exact ⟨rfl, ht⟩

theorem Quotes.eq_of_append {c d : Char} {cs ds t u : List Char} (hc : Quotes c cs) (hd : Quotes d ds)
    (h : cs ++ t = ds ++ u) : c = d ∧ t = u := by
  cases hc with
  | plain backslash =>
    cases hd with
    | plain => exact ⟨List.head_eq_of_cons_eq h, List.tail_eq_of_cons_eq h⟩
    | letter => exact absurd (List.head_eq_of_cons_eq h) backslash
    | code => exact absurd (List.head_eq_of_cons_eq h) backslash
  | @letter e letter =>
    have hu : e ≠ 'u' := by
      rintro rfl
      cases letter
    cases hd with
    | plain backslash => exact absurd (List.head_eq_of_cons_eq h).symm backslash
    | @letter e' letter' =>
      obtain ⟨he, ht⟩ := List.cons.inj (List.tail_eq_of_cons_eq h)
      subst he
      exact ⟨Option.some.inj (letter.symm.trans letter'), ht⟩
    | code => exact absurd (List.cons.inj (List.tail_eq_of_cons_eq h)).1 hu
  | code =>
    cases hd with
    | plain backslash => exact absurd (List.head_eq_of_cons_eq h).symm backslash
    | @letter e' letter' =>
      obtain ⟨rfl, -⟩ := List.cons.inj (List.tail_eq_of_cons_eq h)
      cases letter'
    | code =>
      simp only [List.cons_append, List.cons.injEq, true_and, List.append_assoc, List.nil_append] at h
      obtain ⟨digits, ht⟩ := eq_of_append_brace (brace_not_mem_hexDigits _) (brace_not_mem_hexDigits _) h
      exact ⟨Char.toNat_inj.1 (hexDigits_injective digits), ht⟩

theorem flatMap_quotedChar_injective {s t : List Char} (h : s.flatMap quotedChar = t.flatMap quotedChar) : s = t := by
  induction s generalizing t with
  | nil =>
    cases t with
    | nil => rfl
    | cons d t =>
      rw [List.flatMap_cons] at h
      exact absurd (List.append_eq_nil_iff.1 h.symm).1 (quotes_quotedChar d).ne_nil
  | cons c s ih =>
    rw [List.flatMap_cons] at h
    cases t with
    | nil => exact absurd (List.append_eq_nil_iff.1 h).1 (quotes_quotedChar c).ne_nil
    | cons d t =>
      rw [List.flatMap_cons] at h
      obtain ⟨rfl, rest⟩ := (quotes_quotedChar c).eq_of_append (quotes_quotedChar d) h
      rw [ih rest]

/-- **Texts that are quoted alike are the same.** -/
theorem quoted_injective {s t : String} (h : quoted s = quoted t) : s = t := by
  have h := List.tail_eq_of_cons_eq (String.ofList_injective h)
  exact String.toList_injective (flatMap_quotedChar_injective (List.append_cancel_right h))

end SearchDomain.Text
