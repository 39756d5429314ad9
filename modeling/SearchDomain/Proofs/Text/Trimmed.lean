import Mathlib.Data.List.DropRight
import SearchDomain.Text.WhiteSpace
/-!
# Trimmed — what a cut at the ends leaves

A text is its trimmed part with white space around it (`exists_trim`), and whatever stands between two runs of white
space, with none at its own ends, is that part (`trim_between`).
-/
namespace SearchDomain.Text

variable {p : Char → Bool} {cs w w' : List Char}

/-- White space and nothing else. -/
def AllSpace (cs : List Char) : Prop := ∀ c ∈ cs, isWhiteSpace c = true

/-- White space stands at neither end. -/
def Flush (cs : List Char) : Prop :=
  (∀ c ∈ cs.head?, isWhiteSpace c = false) ∧ ∀ c ∈ cs.getLast?, isWhiteSpace c = false

instance (cs : List Char) : Decidable (AllSpace cs) := List.decidableBAll _ cs

instance (cs : List Char) : Decidable (Flush cs) :=
  @instDecidableAnd _ _ (Option.decidableForallMem _) (Option.decidableForallMem _)

theorem dropTailWhile_append (h : ∀ c ∈ w, p c = true) (cs : List Char) :
    dropTailWhile p (cs ++ w) = dropTailWhile p cs := by
  unfold dropTailWhile
  rw [List.reverse_append, List.dropWhile_append_of_pos fun c hc => h c (List.mem_reverse.1 hc)]

theorem dropTailWhile_of_last (h : ∀ c ∈ cs.getLast?, p c = false) : dropTailWhile p cs = cs :=
  List.rdropWhile_eq_self_iff.2 fun some => ne_true_of_eq_false (h _ (List.getLast?_eq_some_getLast some))

theorem trim_between (before : AllSpace w) (after : AllSpace w') (flush : Flush cs) :
    trim (w ++ (cs ++ w')) = cs := by
  unfold trim trimEnd trimStart
  rw [List.dropWhile_append_of_pos before]
  cases cs with
  | nil =>
    rw [List.nil_append, List.dropWhile_eq_nil_iff.2 after]
    rfl
  | cons c cs =>
    rw [List.cons_append, List.dropWhile_cons_of_neg (ne_true_of_eq_false (flush.1 c rfl)), ← List.cons_append,
      dropTailWhile_append after, dropTailWhile_of_last flush.2]

/-- Every text is its trimmed part with white space around it. -/
theorem exists_trim (cs : List Char) : ∃ w w', AllSpace w ∧ AllSpace w' ∧ cs = w ++ (trim cs ++ w') := by
  refine ⟨cs.takeWhile isWhiteSpace, (trimStart cs).rtakeWhile isWhiteSpace, ?_, ?_, ?_⟩
  · exact fun c hc => List.mem_takeWhile_imp hc
  · exact fun c hc => List.mem_rtakeWhile_imp hc
  · have rest : trim cs ++ (trimStart cs).rtakeWhile isWhiteSpace = trimStart cs :=
      List.rdropWhile_append_rtakeWhile
    rw [rest]
    exact List.takeWhile_append_dropWhile.symm

end SearchDomain.Text
