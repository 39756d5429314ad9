import Mathlib.Data.List.Basic
/-!
# Joined — what a joined text is made of

A text of parts with a separator between them has the characters of its parts (`subset_joined`), and none but these and
the separator (`mem_joined`). What stands in front of the first separator is a part that has none in it
(`takeWhile_ne_append`, `dropWhile_ne_append`).
-/
namespace SearchDomain.Text

variable {α : Type} {separator c : α} {part cs : List α} {parts : List (List α)}

theorem mem_joined (h : c ∈ List.intercalate [separator] parts) : c = separator ∨ ∃ part ∈ parts, c ∈ part := by
  induction parts with
  | nil => cases h
  | cons first parts ih =>
    cases parts with
    | nil =>
      rw [List.intercalate_singleton] at h
      exact .inr ⟨first, List.mem_cons_self, h⟩
    | cons second rest =>
      rw [List.intercalate_cons_cons, List.mem_append, List.mem_append, List.mem_singleton] at h
      obtain (h | h) | h := h
      · exact .inr ⟨first, List.mem_cons_self, h⟩
      · exact .inl h
      · obtain h | ⟨part, hpart, h⟩ := ih h
        · exact .inl h
        · exact .inr ⟨part, List.mem_cons_of_mem first hpart, h⟩

theorem subset_joined (h : part ∈ parts) : part ⊆ List.intercalate [separator] parts := by
  induction parts with
  | nil => cases h
  | cons first parts ih =>
    cases parts with
    | nil =>
      obtain rfl := List.mem_singleton.1 h
      rw [List.intercalate_singleton]
      exact List.Subset.refl _
    | cons second rest =>
      rw [List.intercalate_cons_cons]
      obtain rfl | h := List.mem_cons.1 h
      · exact List.Subset.trans (List.subset_append_left _ _) (List.subset_append_left _ _)
      · exact List.Subset.trans (ih h) (List.subset_append_right _ _)

/-- The parts that a text is split into have no characters but those of the text. -/
theorem subset_of_mem_splitOn [BEq α] [LawfulBEq α] (h : part ∈ cs.splitOn separator) : part ⊆ cs := by
  have inside : part ⊆ List.intercalate [separator] (cs.splitOn separator) := subset_joined h
  rwa [List.intercalate_splitOn] at inside

theorem takeWhile_ne_append [DecidableEq α] (apart : separator ∉ part) (cs : List α) :
    (part ++ separator :: cs).takeWhile (· ≠ separator) = part := by
  have plain : ∀ c ∈ part, decide (c ≠ separator) = true := fun c h => decide_eq_true fun he => apart (he ▸ h)
  rw [List.takeWhile_append_of_pos plain, List.takeWhile_cons_of_neg (by simp), List.append_nil]

theorem dropWhile_ne_append [DecidableEq α] (apart : separator ∉ part) (cs : List α) :
    (part ++ separator :: cs).dropWhile (· ≠ separator) = separator :: cs := by
  have plain : ∀ c ∈ part, decide (c ≠ separator) = true := fun c h => decide_eq_true fun he => apart (he ▸ h)
  rw [List.dropWhile_append_of_pos plain, List.dropWhile_cons_of_neg (by simp)]

end SearchDomain.Text
