import SearchDomain.Idna.Name
import SearchDomain.Proofs.Idna.Punycode
import SearchDomain.Proofs.Text.Composed
import SearchDomain.Proofs.Text.Joined
/-!
# Name — names in small ASCII letters are kept

A name of ASCII characters without capitals may still have written labels. These are read, checked, and written again,
which makes the same label (`writeLabel_of_label?`); so the whole name is kept if it is one (`toAscii?_eq`).
-/
namespace SearchDomain.Idna

open Punycode (isAscii)

variable {c : Char} {cs ds label read : List Char} {labels written : List (List Char)}

/-- Characters that mapping leaves as they are. -/
def IsSmall (cs : List Char) : Prop := ∀ c ∈ cs, c.toNat < 128 ∧ c.toLower = c

theorem status_of_small (ascii : c.toNat < 128) (small : c.toLower = c) : status c = .valid :=
  Text.Percent.of_ascii (p := fun c => c.toLower = c → status c = .valid) (by decide +kernel) ascii small

theorem mapped?_of_small (h : IsSmall cs) : mapped? cs = some cs := by
  induction cs with
  | nil => rfl
  | cons c cs ih =>
    obtain ⟨ascii, small⟩ := h c List.mem_cons_self
    rw [mapped?, status_of_small ascii small, ih fun d hd => h d (List.mem_cons_of_mem c hd)]
    rfl

/-- **A label is written as it was read.** -/
theorem writeLabel_of_label? (small : label.all isAscii = true) (h : label? label = some read) :
    writeLabel read = label := by
  unfold label? at h
  split at h
  · rename_i marked
    unfold readLabel? at h
    split at h
    · cases h
    rename_i written
    simp only [Bool.or_eq_true, decide_eq_true_eq, not_or] at written
    have whole : acePrefix ++ label.drop acePrefix.length = label :=
      List.prefix_iff_eq_append.1 (List.isPrefixOf_iff_prefix.1 marked)
    obtain ⟨decoded, -⟩ := Option.filter_eq_some_iff.1 h
    generalize label.drop acePrefix.length = numbers at written whole decoded
    have nonempty : numbers ≠ [] := by
      rintro rfl
      exact written.1 rfl
    have last : numbers.getLast? ≠ some '-' := by
      intro he
      rw [he] at written
      exact written.1 rfl
    obtain ⟨encoded, beyond⟩ := Punycode.encode_of_decode decoded nonempty last
    unfold writeLabel
    rw [if_neg (by simp [beyond]), encoded, whole]
  split at h
  · cases h
    unfold writeLabel
    rw [if_pos small]
  · cases h

theorem map_writeLabel_of_labels (small : ∀ label ∈ written, label.all isAscii = true)
    (h : written.mapM label? = some labels) : labels.map writeLabel = written := by
  induction written generalizing labels with
  | nil =>
    cases h
    rfl
  | cons label written ih =>
    rw [List.mapM_cons] at h
    simp only [Option.bind_eq_bind, Option.bind_eq_some_iff] at h
    obtain ⟨read, hread, rest, hrest, he⟩ := h
    cases he
    rw [List.map_cons, writeLabel_of_label? (small label List.mem_cons_self) hread,
      ih (fun l hl => small l (List.mem_cons_of_mem label hl)) hrest]

/-- **A name in small ASCII letters is kept**, if it is a name. -/
theorem toAscii?_eq (h : IsSmall cs) (read : toAscii? cs = some ds) : ds = cs := by
  have same : cs.map Char.toLower = cs := by
    refine (List.map_congr_left fun c hc => ?_).trans (List.map_id cs)
    exact (h c hc).2
  unfold toAscii? at read
  simp only [same] at read
  split at read
  · exact (Option.some.inj read).symm
  unfold labels? at read
  rw [mapped?_of_small h] at read
  simp only [Option.bind_eq_bind, Option.bind_some, Text.composed_of_ascii fun c hc => (h c hc).1,
    Option.map_eq_some_iff, Option.bind_eq_some_iff] at read
  obtain ⟨labels, ⟨labels', hlabels, uniform⟩, rfl⟩ := read
  split at uniform
  · cases uniform
    have small : ∀ label ∈ cs.splitOn '.', label.all isAscii = true := fun label hl =>
      List.all_eq_true.2 fun c hc => decide_eq_true (h c (Text.subset_of_mem_splitOn hl hc)).1
    rw [map_writeLabel_of_labels small hlabels, List.intercalate_splitOn]
  · cases uniform

end SearchDomain.Idna
