import SearchDomain.Idna.Punycode
import SearchDomain.Proofs.Text.Percent
/-!
# Punycode — a written label that can be read is what writing makes of the label

A number that is read has been written digit by digit (`eq_writeNumber_of_read`). Reading inserts characters one after
the other; when it is done, each insertion can be found again in the label, as a cursor that writing passes
(`writeRest_of_insertAll`). So what is read from a written label is written as that label again (`encode_of_decode`).
-/
namespace SearchDomain.Idna.Punycode

variable {bias position weight sum point place fuel basics n j : Nat} {c : Char}
  {cs rest l label before behind : List Char}
  {points : List Nat} {w : Writer}

/-! ## Numbers -/

theorem threshold_le (bias position : Nat) : threshold bias position ≤ 26 := by
  unfold threshold
  omega

theorem digit_of_digit? {d : Nat} (h : digit? c = some d) : digit d = c ∧ d < base := by
  have hc := Char.ofNat_toNat c
  unfold digit? at h
  unfold digit base
  split at h
  · rename_i lower
    obtain ⟨low, high⟩ := Text.Percent.bounds_of_isLower lower
    cases h
    rw [if_pos (by omega), show 97 + (c.toNat - 97) = c.toNat by omega]
    exact ⟨hc, by omega⟩
  split at h
  · rename_i digit
    obtain ⟨low, high⟩ := Text.Percent.bounds_of_isDigit digit
    cases h
    rw [if_neg (by omega), show 22 + (c.toNat - 22) = c.toNat by omega]
    exact ⟨hc, by omega⟩
  · cases h

/-- A number off the front of a text is followed by the rest, and is written as it stands there. -/
theorem eq_writeNumber_of_read (h : readNumber bias position weight sum cs = some (n, rest)) :
    ∃ m, n = sum + m * weight ∧ cs = writeNumber bias position m ++ rest := by
  induction cs generalizing position weight sum with
  | nil => cases h
  | cons c cs ih =>
    rw [readNumber] at h
    simp only [Option.bind_eq_bind, Option.bind_eq_some_iff] at h
    obtain ⟨d, hd, h⟩ := h
    obtain ⟨rfl, small⟩ := digit_of_digit? hd
    have low := one_le_threshold bias position
    have high := threshold_le bias position
    have wide : base = 36 := rfl
    generalize ht : threshold bias position = t at *
    split at h
    · cases h
    split at h
    · rename_i last
      cases h
      refine ⟨d, rfl, ?_⟩
      rw [writeNumber]
      simp only [ht]
      rw [if_pos last]
      rfl
    · rename_i more
      split at h
      · cases h
      obtain ⟨m, rfl, rfl⟩ := ih h
      refine ⟨d + m * (base - t), ?_, ?_⟩
      · rw [Nat.add_mul, Nat.add_assoc, Nat.mul_comm weight, Nat.mul_assoc]
      · have rebuilt : d + m * (base - t) - t = (d - t) + (base - t) * m := by
          rw [Nat.mul_comm m]
          omega
        have digit : t + (d - t + (base - t) * m) % (base - t) = d := by
          rw [Nat.add_mul_mod_self_left, Nat.mod_eq_of_lt (by omega)]
          omega
        have others : (d - t + (base - t) * m) / (base - t) = m := by
          rw [Nat.add_mul_div_left _ _ (by omega), Nat.div_eq_of_lt (by omega), Nat.zero_add]
        rw [writeNumber.eq_def bias position]
        simp only [ht]
        rw [if_neg (by omega), rebuilt, digit, others]
        rfl

/-! ## Passing over a label -/

/-- The characters with smaller code points. -/
def below (point : Nat) (c : Char) : Bool := c.toNat < point

theorem filter_below_of_forall (h : ∀ c ∈ cs, c.toNat < point) : cs.filter (below point) = cs :=
  List.filter_eq_self.2 fun c hc => by simpa [below] using h c hc

theorem filter_below_eq_nil (h : ∀ c ∈ cs, point ≤ c.toNat) : cs.filter (below point) = [] :=
  List.filter_eq_nil_iff.2 fun c hc => by simpa [below] using h c hc

/-- Where no character has the code point, those below it are stepped over. -/
theorem foldl_pass_of_ne (h : ∀ c ∈ cs, c.toNat ≠ point) (w : Writer) :
    cs.foldl (Writer.pass basics point) w = { w with steps := w.steps + (cs.filter (below point)).length } := by
  induction cs generalizing w with
  | nil => rfl
  | cons c cs ih =>
    have hc := h c List.mem_cons_self
    rw [List.foldl_cons, ih fun d hd => h d (List.mem_cons_of_mem c hd)]
    by_cases small : c.toNat < point
    · have kept : below point c = true := decide_eq_true small
      rw [List.filter_cons_of_pos kept, List.length_cons]
      unfold Writer.pass
      rw [if_pos small]
      simp only [Writer.mk.injEq, and_true]
      omega
    · have dropped : ¬ below point c = true := by simpa [below] using small
      rw [List.filter_cons_of_neg dropped]
      unfold Writer.pass
      rw [if_neg small, if_neg hc]

/-- What is written at a character with the code point. -/
def Writer.insert (basics : Nat) (w : Writer) (steps : Nat) : Writer where
  steps := 0
  bias := adapted steps (w.placed + 1) (w.placed == basics)
  placed := w.placed + 1
  written := w.written ++ writeNumber w.bias base steps

/-- The next character with the code point is inserted after the steps up to it. -/
theorem foldl_pass_insert {front back : List Char} (none : ∀ c ∈ front, c.toNat ≠ point) (here : c.toNat = point)
    (greater : ∀ c ∈ back, point < c.toNat) (w : Writer) :
    (front ++ c :: back).foldl (Writer.pass basics point) w =
      w.insert basics (w.steps + (front.filter (below point)).length) := by
  have inserted : ∀ w : Writer, Writer.pass basics point w c = w.insert basics w.steps := by
    intro w
    unfold Writer.pass
    rw [if_neg (by omega), if_pos here]
    rfl
  rw [List.foldl_append, List.foldl_cons, foldl_pass_of_ne none, inserted,
    foldl_pass_of_ne (fun c hc => Nat.ne_of_gt (greater c hc)),
    filter_below_eq_nil (fun c hc => Nat.le_of_lt (greater c hc))]
  rfl

/-- The rest of writing, from a cursor on: first the characters behind it with its code point, then the greater code
points. -/
def writeRest (label : List Char) (basics : Nat) (points : List Nat) (point : Nat) (behind : List Char) (w : Writer) :
    List Char :=
  let after := behind.foldl (Writer.pass basics point) w
  writePoints label basics (point + 1) (points.filter (point < ·)) { after with steps := after.steps + 1 }

/-- A cursor in a label stands where reading was at some time: the characters placed by then are those up to its code
point before it, and those below its code point behind it. -/
structure Cursor (label : List Char) (point place : Nat) (placed before behind : List Char) : Prop where
  whole : label = before ++ behind
  front : before.filter (below (point + 1)) = placed.take place
  back : behind.filter (below point) = placed.drop place

/-- The code points of a label that are no ASCII characters, in order. -/
structure Points (label : List Char) (points : List Nat) : Prop where
  sorted : points.Pairwise (· < ·)
  mem : ∀ n, n ∈ points ↔ firstPoint ≤ n ∧ ∃ c ∈ label, c.toNat = n

variable {placed L : List Char}

/-- The character that a cursor has passed last. -/
theorem Cursor.last (cursor : Cursor label point (j + 1) (placed.take j ++ c :: placed.drop j) before behind)
    (inside : j ≤ placed.length) :
    ∃ front back, before = front ++ c :: back ∧ front.filter (below (point + 1)) = placed.take j ∧
      (∀ d ∈ back, point < d.toNat) ∧ behind.filter (below point) = placed.drop j := by
  have length : (placed.take j ++ [c]).length = j + 1 := by simp [inside]
  have split : placed.take j ++ c :: placed.drop j = (placed.take j ++ [c]) ++ placed.drop j := by simp
  have front := cursor.front
  have back := cursor.back
  rw [split, List.take_left' length] at front
  rw [split, List.drop_left' length] at back
  obtain ⟨front₁, rest, rfl, h₁, hrest⟩ := List.filter_eq_append_iff.1 front
  obtain ⟨front₂, after, rfl, h₂, -, hafter⟩ := List.filter_eq_cons_iff.1 hrest
  refine ⟨front₁ ++ front₂, after, by simp, ?_, fun d hd => ?_, back⟩
  · rw [List.filter_append, h₁, List.filter_eq_nil_iff.2 h₂, List.append_nil]
  · have hd := List.filter_eq_nil_iff.1 hafter d hd
    simpa [below, Nat.lt_succ_iff] using hd

/-- Reading stands at a place of what it has placed, where smaller code points follow and none is greater. -/
structure Standing (placed : List Char) (point place : Nat) : Prop where
  start : place ≤ placed.length
  upTo : ∀ d ∈ placed, d.toNat ≤ point
  lower : ∀ d ∈ placed.drop place, d.toNat < point

theorem drop_insert (inside : j ≤ placed.length) :
    (placed.take j ++ c :: placed.drop j).drop (j + 1) = placed.drop j := by
  have length : (placed.take j ++ [c]).length = j + 1 := by simp [inside]
  rw [show placed.take j ++ c :: placed.drop j = (placed.take j ++ [c]) ++ placed.drop j by simp,
    List.drop_left' length]

/-- An insertion leads to the place behind it. -/
theorem Standing.insert {q m : Nat} (stands : Standing placed point place) (here : c.toNat = point + q)
    (number : place + m = q * (placed.length + 1) + j) (inside : j ≤ placed.length) :
    Standing (placed.take j ++ c :: placed.drop j) (point + q) (j + 1) where
  start := by
    rw [List.length_append, List.length_cons, List.length_take, List.length_drop]
    omega
  upTo := by
    intro d hd
    obtain hd | hd := List.mem_append.1 hd
    · exact Nat.le_add_right_of_le (stands.upTo d (List.mem_of_mem_take hd))
    obtain rfl | hd := List.mem_cons.1 hd
    · exact Nat.le_of_eq here
    · exact Nat.le_add_right_of_le (stands.upTo d (List.mem_of_mem_drop hd))
  lower := by
    rw [drop_insert inside]
    intro d hd
    obtain rfl | further := Nat.eq_zero_or_pos q
    · have later : placed.drop j = (placed.drop place).drop (j - place) := by
        rw [List.drop_drop, Nat.add_sub_cancel' (by omega)]
      rw [later] at hd
      exact stands.lower d (List.mem_of_mem_drop hd)
    · have hd := stands.upTo d (List.mem_of_mem_drop hd)
      omega

/-- A number less than what is left behind a cursor leads to a place behind it, for the same code point. -/
theorem rest_of_same (basics : Nat)
    (cursor : Cursor label point (j + 1) (placed.take j ++ c :: placed.drop j) before behind) (here : c.toNat = point)
    (stands : Standing placed point place) (behindPlace : place ≤ j) (inside : j ≤ placed.length) :
    ∃ before' behind', Cursor label point place placed before' behind' ∧ ∀ w : Writer, w.steps = 0 →
      writeRest label basics points point behind' w =
        writeRest label basics points point behind (w.insert basics (j - place)) := by
  obtain ⟨front, back, rfl, hfront, greater, hback⟩ := cursor.last inside
  have split : placed.take j = placed.take place ++ (placed.drop place).take (j - place) := by
    rw [← List.take_add, Nat.add_sub_cancel' behindPlace]
  rw [split] at hfront
  obtain ⟨first, middle, rfl, hfirst, hmiddle⟩ := List.filter_eq_append_iff.1 hfront
  -- in the middle there is nothing with the code point itself
  have none : ∀ d ∈ middle, d.toNat ≠ point := by
    intro d hd he
    have mem : d ∈ middle.filter (below (point + 1)) := List.mem_filter.2 ⟨hd, by simp [below, he]⟩
    rw [hmiddle] at mem
    exact Nat.ne_of_lt (stands.lower d (List.mem_of_mem_take mem)) he
  have same : middle.filter (below point) = middle.filter (below (point + 1)) := by
    refine List.filter_congr fun d hd => ?_
    have hne := none d hd
    simp only [below, decide_eq_decide]
    omega
  refine ⟨first, middle ++ c :: back ++ behind, ⟨?_, hfirst, ?_⟩, fun w hw => ?_⟩
  · rw [cursor.whole]
    simp
  · have greater' : (c :: back).filter (below point) = [] := filter_below_eq_nil fun d hd => by
      obtain rfl | hd := List.mem_cons.1 hd
      · exact Nat.le_of_eq here.symm
      · exact Nat.le_of_lt (greater d hd)
    have rest : placed.drop j = (placed.drop place).drop (j - place) := by
      rw [List.drop_drop, Nat.add_sub_cancel' behindPlace]
    rw [List.filter_append, List.filter_append, same, hmiddle, greater', hback, List.append_nil, rest,
      List.take_append_drop]
  · unfold writeRest
    have steps : ((placed.drop place).take (j - place)).length = j - place := by
      rw [List.length_take, List.length_drop]
      omega
    rw [List.foldl_append, foldl_pass_insert none here greater, same, hmiddle, hw, steps, Nat.zero_add]

theorem filter_cons_of_sorted (sorted : points.Pairwise (· < ·)) (mem : n ∈ points) (less : point < n)
    (next : ∀ m ∈ points, point < m → n ≤ m) :
    points.filter (point < ·) = n :: points.filter (n < ·) := by
  induction points with
  | nil => cases mem
  | cons m points ih =>
    obtain ⟨first, sorted⟩ := List.pairwise_cons.1 sorted
    obtain rfl | mem := List.mem_cons.1 mem
    · have later : points.filter (point < ·) = points.filter (n < ·) := by
        refine List.filter_congr fun m hm => ?_
        have hm := first m hm
        simp only [decide_eq_decide]
        omega
      rw [List.filter_cons_of_pos (by simpa using less), List.filter_cons_of_neg (by simp), later]
    · have smaller := first n mem
      have passed : ¬ point < m := fun h => absurd (next m List.mem_cons_self h) (by omega)
      rw [List.filter_cons_of_neg (by simpa using passed), List.filter_cons_of_neg (by simp; omega)]
      exact ih sorted mem fun m hm => next m (List.mem_cons_of_mem _ hm)

/-- A greater number leads to a greater code point. -/
theorem rest_of_greater {reached : Nat} (basics : Nat)
    (cursor : Cursor label reached (j + 1) (placed.take j ++ c :: placed.drop j) before behind)
    (here : c.toNat = reached) (further : point < reached) (stands : Standing placed point place)
    (inside : j ≤ placed.length)
    (ordered : Points label points) (beyond : firstPoint ≤ reached) :
    ∃ before' behind', Cursor label point place placed before' behind' ∧ ∀ w : Writer, w.steps = 0 →
      w.placed = placed.length →
      writeRest label basics points point behind' w =
        writeRest label basics points reached behind
          (w.insert basics ((reached - point) * (placed.length + 1) + j - place)) := by
  obtain ⟨front, back, rfl, hfront, greater, hback⟩ := cursor.last inside
  have none : ∀ d ∈ front, d.toNat ≠ reached := by
    intro d hd he
    have mem : d ∈ front.filter (below (reached + 1)) := List.mem_filter.2 ⟨hd, by simp [below, he]⟩
    rw [hfront] at mem
    have small := stands.upTo d (List.mem_of_mem_take mem)
    omega
  have same : front.filter (below reached) = placed.take j := by
    rw [← hfront]
    refine List.filter_congr fun d hd => ?_
    have hne := none d hd
    simp only [below, decide_eq_decide]
    omega
  -- what is below the code point reached is what had been placed
  have smaller : label.filter (below reached) = placed := by
    have greater' : (c :: back).filter (below reached) = [] := filter_below_eq_nil fun d hd => by
      obtain rfl | hd := List.mem_cons.1 hd
      · exact Nat.le_of_eq here.symm
      · exact Nat.le_of_lt (greater d hd)
    rw [cursor.whole, List.filter_append, List.filter_append, same, greater', hback, List.append_nil,
      List.take_append_drop]
  have all : label.filter (below (point + 1)) = placed.take place ++ placed.drop place := by
    calc label.filter (below (point + 1))
        = (label.filter (below reached)).filter (below (point + 1)) := by
          rw [List.filter_filter]
          refine List.filter_congr fun d _ => ?_
          simp only [below, ← Bool.decide_and, decide_eq_decide]
          omega
      _ = placed := by rw [smaller, filter_below_of_forall fun d hd => Nat.lt_succ_of_le (stands.upTo d hd)]
      _ = placed.take place ++ placed.drop place := (List.take_append_drop ..).symm
  obtain ⟨first, last, rfl, hfirst, hlast⟩ := List.filter_eq_append_iff.1 all
  have other : ∀ d ∈ last, d.toNat ≠ point := by
    intro d hd he
    have mem : d ∈ last.filter (below (point + 1)) := List.mem_filter.2 ⟨hd, by simp [below, he]⟩
    rw [hlast] at mem
    exact Nat.ne_of_lt (stands.lower d mem) he
  have stepped : last.filter (below point) = placed.drop place := by
    rw [← hlast]
    refine List.filter_congr fun d hd => ?_
    have hne := other d hd
    simp only [below, decide_eq_decide]
    omega
  refine ⟨first, last, ⟨rfl, hfirst, stepped⟩, fun w hw hp => ?_⟩
  have next : points.filter (point < ·) = reached :: points.filter (reached < ·) := by
    refine filter_cons_of_sorted ordered.sorted ((ordered.mem reached).2
      ⟨beyond, c, ?_, here⟩) further fun m hm hless => ?_
    · rw [cursor.whole]
      simp
    · obtain ⟨-, d, hd, rfl⟩ := (ordered.mem m).1 hm
      refine Nat.not_lt.1 fun less => ?_
      have mem : d ∈ (first ++ last).filter (below reached) := List.mem_filter.2 ⟨hd, by simpa [below] using less⟩
      rw [smaller] at mem
      exact absurd (stands.upTo d mem) (by omega)
  unfold writeRest
  rw [next, foldl_pass_of_ne other, stepped]
  simp only [writePoints]
  rw [cursor.whole, List.foldl_append, foldl_pass_insert none here greater, same]
  have total :
      w.steps + (placed.drop place).length + 1 + (reached - (point + 1)) * (w.placed + 1) + (placed.take j).length =
      (reached - point) * (placed.length + 1) + j - place := by
    have start := stands.start
    obtain ⟨k, rfl⟩ := Nat.exists_eq_add_of_le (Nat.succ_le_of_lt further)
    rw [hw, hp, List.length_drop, List.length_take, show point.succ + k - (point + 1) = k by omega,
      show point.succ + k - point = k + 1 by omega, Nat.succ_mul]
    omega
  simp only [Writer.insert, total]

/-- **A number leads back from where it was inserted** to the cursor that it was counted from. -/
theorem rest_of_number {q m : Nat} (basics : Nat)
    (cursor : Cursor label (point + q) (j + 1) (placed.take j ++ c :: placed.drop j) before behind)
    (here : c.toNat = point + q) (number : place + m = q * (placed.length + 1) + j)
    (stands : Standing placed point place) (inside : j ≤ placed.length) (ordered : Points label points)
    (above : firstPoint ≤ point) :
    ∃ before' behind', Cursor label point place placed before' behind' ∧ ∀ w : Writer, w.steps = 0 →
      w.placed = placed.length →
      writeRest label basics points point behind' w =
        writeRest label basics points (point + q) behind (w.insert basics m) := by
  obtain rfl | further := Nat.eq_zero_or_pos q
  · have hm : j - place = m := by omega
    obtain ⟨before', behind', cursor', same⟩ := rest_of_same basics cursor here stands (by omega) inside
    exact ⟨before', behind', cursor', fun w hw _ => hm ▸ same w hw⟩
  · have hm : (point + q - point) * (placed.length + 1) + j - place = m := by
      rw [Nat.add_sub_cancel_left]
      omega
    obtain ⟨before', behind', cursor', greater⟩ := rest_of_greater basics cursor here (by omega) stands inside
      ordered (by omega)
    exact ⟨before', behind', cursor', fun w hw hp => hm ▸ greater w hw hp⟩

/-! ## Reading -/

theorem insertIdx_eq (h : j ≤ placed.length) : placed.insertIdx j c = placed.take j ++ c :: placed.drop j := by
  induction placed generalizing j with
  | nil =>
    obtain rfl := Nat.le_zero.1 h
    rfl
  | cons d placed ih =>
    cases j with
    | zero => rfl
    | succ j => rw [List.insertIdx_succ_cons, ih (Nat.le_of_succ_le_succ h), List.take_succ_cons, List.drop_succ_cons,
        List.cons_append]

/-- At the end nothing is left to be written. -/
theorem writeRest_of_placed (stands : Standing placed point place) (ordered : Points placed points) :
    ∃ before behind, Cursor placed point place placed before behind ∧
      ∀ w : Writer, writeRest placed basics points point behind w = w.written := by
  have kept : (placed.take place).filter (below (point + 1)) = placed.take place :=
    filter_below_of_forall fun d hd => Nat.lt_succ_of_le (stands.upTo d (List.mem_of_mem_take hd))
  have none : points.filter (point < ·) = [] := by
    refine List.filter_eq_nil_iff.2 fun n hn => ?_
    obtain ⟨-, d, hd, rfl⟩ := (ordered.mem n).1 hn
    simpa using stands.upTo d hd
  refine ⟨_, _, ⟨(List.take_append_drop ..).symm, kept, filter_below_of_forall stands.lower⟩, fun w => ?_⟩
  unfold writeRest
  rw [none, foldl_pass_of_ne fun d hd => Nat.ne_of_lt (stands.lower d hd)]
  rfl

/-- **What has been read is written from a cursor on**: the one at which reading stood, in the label that came of it. -/
theorem writeRest_of_insertAll (basics : Nat) (h : insertAll fuel point bias place placed cs = some label)
    (stands : Standing placed point place) (above : firstPoint ≤ point) (ordered : Points label points) :
    ∃ before behind, Cursor label point place placed before behind ∧
      ∀ w : Writer, w.steps = 0 → w.placed = placed.length → w.bias = bias → (w.placed == basics) = (place == 0) →
        basics ≤ w.placed → writeRest label basics points point behind w = w.written ++ cs := by
  induction fuel generalizing point bias place placed cs with
  | zero =>
    cases cs with
    | nil =>
      cases h
      obtain ⟨before, behind, cursor, written⟩ := writeRest_of_placed stands ordered
      exact ⟨before, behind, cursor, fun w _ _ _ _ _ => by rw [written, List.append_nil]⟩
    | cons c cs => cases h
  | succ fuel ih =>
    cases cs with
    | nil =>
      cases h
      obtain ⟨before, behind, cursor, written⟩ := writeRest_of_placed stands ordered
      exact ⟨before, behind, cursor, fun w _ _ _ _ _ => by rw [written, List.append_nil]⟩
    | cons c cs =>
      rw [insertAll.eq_3 _ _ _ _ _ _ (List.cons_ne_nil c cs)] at h
      simp only [Option.bind_eq_bind, Option.bind_eq_some_iff] at h
      obtain ⟨⟨reached, rest⟩, hread, h⟩ := h
      simp only at h
      split at h
      · rename_i valid
        obtain ⟨m, rfl, hcs⟩ := eq_writeNumber_of_read hread
        rw [Nat.mul_one] at h valid
        have size := Nat.mod_lt (place + m) (Nat.succ_pos placed.length)
        have number := (Nat.div_add_mod' (place + m) (placed.length + 1)).symm
        generalize (place + m) / (placed.length + 1) = q at h valid number
        generalize (place + m) % (placed.length + 1) = j at h size number
        have inside : j ≤ placed.length := Nat.le_of_lt_succ size
        have here := Text.Utf8.toNat_ofNat_of_valid valid
        generalize hc : Char.ofNat (point + q) = d at h here
        rw [insertIdx_eq inside] at h
        obtain ⟨before, behind, cursor, written⟩ := ih h (stands.insert here number inside) (by omega)
        obtain ⟨before', behind', cursor', same⟩ := rest_of_number basics cursor here number stands inside
          ordered above
        refine ⟨before', behind', cursor', fun w hw hp hbias first more => ?_⟩
        have hbias' : (w.insert basics m).bias = adapted (place + m - place) (placed.length + 1) (place == 0) := by
          show adapted m (w.placed + 1) (w.placed == basics) = _
          rw [first, hp, Nat.add_sub_cancel_left]
        have later : ((w.insert basics m).placed == basics) = (j + 1 == 0) := by
          show (w.placed + 1 == basics) = _
          rw [beq_eq_false_iff_ne.2 (by omega), beq_eq_false_iff_ne.2 (by omega)]
        have total : (w.insert basics m).placed = (placed.take j ++ d :: placed.drop j).length := by
          show w.placed + 1 = _
          rw [List.length_append, List.length_cons, List.length_take, List.length_drop, hp]
          omega
        have rest := written (w.insert basics m) rfl total hbias' later (Nat.le_succ_of_le more)
        rw [same w hw hp, rest, hcs, ← hbias, ← List.append_assoc]
        rfl
      · cases h

/-! ## A whole label -/

theorem nodup_eraseDups (l : List Nat) : l.eraseDups.Nodup := by
  induction hn : l.length using Nat.strongRecOn generalizing l with
  | ind n ih =>
    cases l with
    | nil => exact List.nodup_nil
    | cons a l =>
      rw [List.eraseDups_cons, List.nodup_cons]
      refine ⟨?_, ih _ ?_ _ rfl⟩
      · rw [List.mem_eraseDups, List.mem_filter]
        simp
      · rw [← hn, List.length_cons]
        exact Nat.lt_succ_of_le (List.length_filter_le _ _)

/-- The code points in the order in which writing passes them. -/
def pointsOf (label : List Char) : List Nat :=
  (((label.filter (!isAscii ·)).map Char.toNat).eraseDups).mergeSort (· ≤ ·)

theorem points_pointsOf (label : List Char) : Points label (pointsOf label) where
  sorted := by
    have sorted := @List.pairwise_mergeSort _ (fun a b : Nat => decide (a ≤ b)) (by simp; omega) (by simp; omega)
      ((label.filter (!isAscii ·)).map Char.toNat).eraseDups
    have nodup := (List.mergeSort_perm ((label.filter (!isAscii ·)).map Char.toNat).eraseDups (· ≤ ·)).nodup_iff.2
      (nodup_eraseDups _)
    exact (sorted.and nodup).imp fun h => Nat.lt_of_le_of_ne (by simpa using h.1) h.2
  mem := by
    intro n
    unfold pointsOf isAscii
    simp only [List.mem_mergeSort, List.mem_eraseDups, List.mem_map, List.mem_filter, Bool.not_eq_true',
      decide_eq_false_iff_not, Nat.not_lt]
    constructor
    · rintro ⟨c, ⟨hc, other⟩, rfl⟩
      exact ⟨other, c, hc, rfl⟩
    · rintro ⟨other, c, hc, rfl⟩
      exact ⟨c, ⟨hc, other⟩, rfl⟩

/-- Writing begins at the first code point, with nothing but ASCII characters placed. -/
theorem writePoints_eq_writeRest {ascii : List Char} (cursor : Cursor label firstPoint 0 ascii before behind)
    (ordered : Points label points) (w : Writer) (hw : w.steps = 0) (hp : w.placed = ascii.length) :
    writePoints label basics firstPoint points w = writeRest label basics points firstPoint behind w := by
  have back : behind.filter (below firstPoint) = ascii := cursor.back
  have greater : ∀ c ∈ before, firstPoint < c.toNat := by
    intro c hc
    have small := List.filter_eq_nil_iff.1 cursor.front c hc
    simpa [below, Nat.lt_succ_iff] using small
  have least : ∀ n ∈ points, firstPoint ≤ n := fun n hn => ((ordered.mem n).1 hn).1
  cases points with
  | nil =>
    have none : ∀ c ∈ behind, c.toNat ≠ firstPoint := by
      intro c hc he
      have mem := (ordered.mem firstPoint).2 ⟨Nat.le_refl _, c, by rw [cursor.whole]; simp [hc], he⟩
      cases mem
    unfold writeRest
    rw [foldl_pass_of_ne none]
    rfl
  | cons n points =>
    obtain ⟨first, sorted⟩ := List.pairwise_cons.1 ordered.sorted
    obtain rfl | further := Nat.eq_or_lt_of_le (least n List.mem_cons_self)
    · have rest : (firstPoint :: points).filter (firstPoint < ·) = points := by
        rw [List.filter_cons_of_neg (by simp)]
        exact List.filter_eq_self.2 fun m hm => by simpa using first m hm
      unfold writeRest
      rw [rest, writePoints, cursor.whole, List.foldl_append,
        foldl_pass_of_ne fun c hc => Nat.ne_of_gt (greater c hc),
        filter_below_eq_nil fun c hc => Nat.le_of_lt (greater c hc)]
      simp only [Nat.sub_self, Nat.zero_mul, Nat.add_zero, List.length_nil]
    · have rest : (n :: points).filter (firstPoint < ·) = n :: points := List.filter_eq_self.2 fun m hm => by
        obtain rfl | hm := List.mem_cons.1 hm
        · simpa using further
        · simpa using Nat.lt_trans further (first m hm)
      have none : ∀ c ∈ behind, c.toNat ≠ firstPoint := by
        intro c hc he
        have mem := (ordered.mem firstPoint).2 ⟨Nat.le_refl _, c, by rw [cursor.whole]; simp [hc], he⟩
        obtain rfl | mem := List.mem_cons.1 mem
        · exact absurd further (Nat.lt_irrefl _)
        · exact absurd (first _ mem) (by omega)
      have total : w.steps + (n - firstPoint) * (w.placed + 1) =
          w.steps + ascii.length + 1 + (n - (firstPoint + 1)) * (w.placed + 1) := by
        obtain ⟨k, rfl⟩ := Nat.exists_eq_add_of_le (Nat.succ_le_of_lt further)
        rw [hw, hp, show firstPoint.succ + k - firstPoint = k + 1 by omega,
          show firstPoint.succ + k - (firstPoint + 1) = k by omega, Nat.succ_mul]
        omega
      unfold writeRest
      rw [rest, foldl_pass_of_ne none, back]
      simp only [writePoints, total]

/-- The ASCII characters of a written label, and its numbers. -/
theorem split_of_decode (h : decode? cs = some label) : ∃ ascii numbers,
    cs = (if ascii = [] then [] else ascii ++ ['-']) ++ numbers ∧ (∀ c ∈ ascii, c.toNat < firstPoint) ∧
      insertAll numbers.length firstPoint firstBias 0 ascii numbers = some label ∧
      (cs ≠ [] → cs.getLast? ≠ some '-' → numbers ≠ []) := by
  have whole := congrArg List.reverse (List.takeWhile_append_dropWhile (p := (· ≠ '-')) (l := cs.reverse))
  rw [List.reverse_append, List.reverse_reverse] at whole
  have more : cs ≠ [] → cs.getLast? ≠ some '-' → (cs.reverse.takeWhile (· ≠ '-')).reverse ≠ [] := by
    intro nonempty last none
    obtain ⟨init, c, rfl⟩ := List.eq_nil_or_concat cs |>.resolve_left nonempty
    rw [List.concat_eq_append] at none last
    have other : c ≠ '-' := by simpa using last
    rw [List.reverse_append, List.reverse_singleton, List.singleton_append,
      List.takeWhile_cons_of_pos (by simpa using other),
      List.reverse_cons] at none
    exact List.append_ne_nil_of_right_ne_nil _ (List.cons_ne_nil _ _) none
  unfold decode? at h
  generalize hn : (cs.reverse.takeWhile (· ≠ '-')).reverse = numbers at h whole more
  generalize hd : cs.reverse.dropWhile (· ≠ '-') = front at whole
  simp only at h
  split at h
  · cases h
  rename_i readable
  simp only [Bool.or_eq_true, Bool.not_eq_true', Bool.and_eq_true, decide_eq_true_eq, not_or, not_and,
    Bool.not_eq_false] at readable
  obtain ⟨ascii, basics⟩ := readable
  cases front with
  | nil =>
    obtain rfl : numbers = cs := whole
    rw [show numbers.length - numbers.length - 1 = 0 by omega, List.take_zero] at h
    exact ⟨[], numbers, rfl, fun c hc => absurd hc List.not_mem_nil, h, more⟩
  | cons c front =>
    have hyphen : c = '-' := by
      have found := List.head?_dropWhile_not (· ≠ '-') cs.reverse
      rw [hd] at found
      simpa using found
    subst hyphen
    rw [List.reverse_cons] at whole
    have length := congrArg List.length whole
    simp only [List.length_append, List.length_singleton, List.length_reverse] at length
    have taken : cs.take (cs.length - numbers.length - 1) = front.reverse := by
      rw [← whole, List.append_assoc]
      refine List.take_left' ?_
      rw [List.length_reverse, List.length_append, List.length_append, List.length_reverse, List.length_singleton]
      omega
    rw [taken] at h basics
    have nonempty : front.reverse ≠ [] := fun he => basics he (by omega)
    refine ⟨front.reverse, numbers, ?_, fun c hc => ?_, h, more⟩
    · rw [if_neg nonempty, whole]
    · have hc := List.all_eq_true.1 ascii c (by rw [← whole]; simp [List.mem_reverse.1 hc])
      simpa [isAscii] using hc

/-- **A label that is read from a written form has this written form**, and is not ASCII. -/
theorem encode_of_decode (h : decode? cs = some label) (nonempty : cs ≠ []) (last : cs.getLast? ≠ some '-') :
    encode label = cs ∧ label.all isAscii = false := by
  obtain ⟨ascii, numbers, hcs, small, inserted, more⟩ := split_of_decode h
  have stands : Standing ascii firstPoint 0 :=
    ⟨Nat.zero_le _, fun c hc => Nat.le_of_lt (small c hc), fun c hc => small c hc⟩
  obtain ⟨before, behind, cursor, written⟩ :=
    writeRest_of_insertAll ascii.length inserted stands (Nat.le_refl _) (points_pointsOf label)
  have rest := written { placed := ascii.length } rfl rfl rfl (by simp) (Nat.le_refl _)
  rw [← writePoints_eq_writeRest cursor (points_pointsOf label) { placed := ascii.length } rfl rfl] at rest
  have basics : label.filter isAscii = ascii := by
    have none : before.filter isAscii = [] := by
      refine List.filter_eq_nil_iff.2 fun c hc => ?_
      have great := List.filter_eq_nil_iff.1 cursor.front c hc
      simp only [below, decide_eq_true_eq] at great
      simp only [isAscii, decide_eq_true_eq]
      omega
    rw [cursor.whole, List.filter_append, none, List.nil_append]
    exact cursor.back
  refine ⟨?_, ?_⟩
  · unfold encode
    simp only [basics]
    rw [hcs]
    exact congrArg _ rest
  · refine Bool.eq_false_iff.2 fun all => ?_
    have none : pointsOf label = [] := by
      refine List.eq_nil_iff_forall_not_mem.2 fun n hn => ?_
      obtain ⟨great, c, hc, rfl⟩ := ((points_pointsOf label).mem n).1 hn
      have ascii := List.all_eq_true.1 all c hc
      simp only [isAscii, decide_eq_true_eq] at ascii
      exact absurd ascii (Nat.not_lt.2 great)
    rw [none] at rest
    exact more nonempty last rest.symm

end SearchDomain.Idna.Punycode
