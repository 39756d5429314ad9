import Mathlib.Data.List.TakeWhile
import SearchDomain.Http.Url
import SearchDomain.Proofs.Text.Joined
import SearchDomain.Proofs.Text.Percent
/-!
# Url — addresses that are read as they are spelled

An address is spelled with a scheme, an authority, and a path of segments. Its parts are found where they are
(`ofChars?_spelled`), and segments of unreserved characters and escapes are left as they are, but for those that are
dots: they stand for the place or for the one above (`resolveSegments_of_plain`).
-/
namespace SearchDomain.Http.Url

open Text.Percent (isComponentChar component encodeBytes encodeByte isUnreserved)

variable {scheme : Scheme} {authority path cs : List Char} {c : Char} {url : Url} {segment : List Char}
  {segments done rest : List (List Char)}

/-! ## Parts -/

/-- What can stand between the slashes of a scheme and a path. -/
structure IsAuthority (cs : List Char) : Prop where
  nonempty : cs ≠ []
  visible : ∀ c ∈ cs, 0x20 < c.toNat
  within : ∀ c ∈ cs, endsAuthority c = false

/-- The text of an address. -/
def spelled (scheme : Scheme) (authority path : List Char) : List Char :=
  scheme.name ++ ':' :: '/' :: '/' :: authority ++ '/' :: path

theorem dropWhile_of_head {p : Char → Bool} (h : p c = false) : (c :: cs).dropWhile p = c :: cs := by
  rw [List.dropWhile_cons_of_neg (by simp [h])]

theorem cleaned_of_visible (h : ∀ c ∈ cs, 0x20 < c.toNat) : cleaned cs = cs := by
  have around : ∀ {ds : List Char}, (∀ c ∈ ds, 0x20 < c.toNat) → ds.dropWhile isBlankAround = ds := by
    intro ds hds
    cases ds with
    | nil => rfl
    | cons d ds =>
      refine dropWhile_of_head ?_
      have hd := hds d List.mem_cons_self
      unfold isBlankAround
      simpa using hd
  unfold cleaned
  rw [around h, around (by simpa using h), List.reverse_reverse, List.filter_eq_self]
  intro c hc
  have visible := h c hc
  simp only [Bool.not_eq_true', Bool.or_eq_false_iff, beq_eq_false_iff_ne]
  refine ⟨⟨?_, ?_⟩, ?_⟩ <;> rintro rfl <;> exact absurd visible (by decide)

theorem visible_spelled (visible : ∀ c ∈ authority, 0x20 < c.toNat) (tail : ∀ c ∈ path, 0x20 < c.toNat) :
    ∀ c ∈ spelled scheme authority path, 0x20 < c.toNat := by
  have all : scheme.name.all (0x20 < Char.toNat ·) = true := by cases scheme <;> decide
  have name : ∀ c ∈ scheme.name, 0x20 < c.toNat := fun c hc => of_decide_eq_true (List.all_eq_true.1 all c hc)
  unfold spelled
  simp only [List.mem_append, List.mem_cons]
  rintro c ((hc | rfl | rfl | rfl | hc) | rfl | hc)
  · exact name c hc
  · decide
  · decide
  · decide
  · exact visible c hc
  · decide
  · exact tail c hc

theorem scheme?_spelled : scheme? (spelled scheme authority path) =
    some (scheme, '/' :: '/' :: authority ++ '/' :: path) := by
  unfold scheme? spelled
  cases scheme <;> rfl

theorem takeWhile_authority (h : IsAuthority authority) :
    (authority ++ '/' :: path).takeWhile (!endsAuthority ·) = authority := by
  rw [List.takeWhile_append_of_pos (by simpa using h.within), List.takeWhile_cons_of_neg (by decide), List.append_nil]

theorem dropWhile_authority (h : IsAuthority authority) :
    (authority ++ '/' :: path).dropWhile (!endsAuthority ·) = '/' :: path := by
  rw [List.dropWhile_append_of_pos (by simpa using h.within), List.dropWhile_cons_of_neg (by decide)]

/-- **The authority is found behind the slashes.** -/
theorem ofChars?_spelled (h : IsAuthority authority) (tail : ∀ c ∈ path, 0x20 < c.toNat) :
    ofChars? (spelled scheme authority path) = ofAuthority? scheme (authority ++ '/' :: path) := by
  unfold ofChars?
  rw [cleaned_of_visible (visible_spelled h.visible tail), scheme?_spelled]
  have slashes : ('/' :: '/' :: authority ++ '/' :: path).dropWhile isSlash = authority ++ '/' :: path := by
    obtain ⟨c, cs, rfl⟩ := List.exists_cons_of_ne_nil h.nonempty
    have hc : isSlash c = false := by
      have within := h.within c List.mem_cons_self
      unfold endsAuthority at within
      simp only [Bool.or_eq_false_iff] at within
      exact within.1.1
    exact dropWhile_of_head hc
  simp only [Option.bind_eq_bind, Option.bind_some, slashes]

/-- The parts of an address are those of its text. -/
theorem ofAuthority?_some (h : IsAuthority authority)
    (read : ofAuthority? scheme (authority ++ '/' :: path) = some url) :
    ∃ host port, Host.parse? (splitPort false (splitUser authority).2).1 = some host ∧
      port? scheme (splitPort false (splitUser authority).2).2 = some port ∧
      url = {
        scheme, host, port
        user := (splitUser authority).1.bind user?
        path := absolutePath (splitTail ('/' :: path)).1
        query := encodeQuery (splitTail ('/' :: path)).2.1
        fragment := encodeFragment (splitTail ('/' :: path)).2.2 } := by
  unfold ofAuthority? at read
  rw [takeWhile_authority h, dropWhile_authority h] at read
  simp only [Option.bind_eq_bind, Option.bind_eq_some_iff] at read
  obtain ⟨host, hhost, port, hport, he⟩ := read
  exact ⟨host, port, hhost, hport, (Option.some.inj he).symm⟩

/-- Path and query are found where they are. -/
theorem splitTail_spelled {query : Option (List Char)} (path : ∀ c ∈ cs, c ≠ '?' ∧ c ≠ '#')
    (asked : ∀ q ∈ query, '#' ∉ q) : splitTail (cs ++ marked '?' query) = (cs, query, none) := by
  have noFragment : ∀ c ∈ cs ++ marked '?' query, decide (c ≠ '#') = true := by
    intro c hc
    refine decide_eq_true ?_
    obtain hc | hc := List.mem_append.1 hc
    · exact (path c hc).2
    cases query with
    | none => cases hc
    | some q =>
      obtain rfl | hc := List.mem_cons.1 hc
      · decide
      · rintro rfl
        exact asked q rfl hc
  have inPath : ∀ c ∈ cs, decide (c ≠ '?') = true := fun c hc => decide_eq_true (path c hc).1
  unfold splitTail
  simp only
  rw [List.takeWhile_eq_self_iff.2 noFragment, List.dropWhile_eq_nil_iff.2 noFragment,
    List.takeWhile_append_of_pos inPath, List.dropWhile_append_of_pos inPath]
  cases query with
  | none =>
    simp only [marked, List.takeWhile_nil, List.append_nil]
    rfl
  | some q =>
    simp only [marked]
    rw [List.takeWhile_cons_of_neg (by decide), List.dropWhile_cons_of_neg (by decide), List.append_nil]
    rfl

/-! ## Segments -/

/-- A segment that every reading leaves as it is spelled. -/
def IsSettled (segment : List Char) : Prop := ∀ c ∈ segment, isComponentChar c = true

theorem isComponentChar_facts (h : isComponentChar c = true) :
    0x20 < c.toNat ∧ isSlash c = false ∧ c ≠ '/' ∧ c ≠ '?' ∧ c ≠ '#' ∧ pathKeeps c.toNat.toUInt8 = true :=
  Text.Percent.of_ascii (p := fun c => isComponentChar c = true →
    0x20 < c.toNat ∧ isSlash c = false ∧ c ≠ '/' ∧ c ≠ '?' ∧ c ≠ '#' ∧ pathKeeps c.toNat.toUInt8 = true)
    (by decide) (Text.Percent.ascii_of_isComponentChar h) h

theorem encode_of_settled (h : IsSettled segment) : Text.Percent.encode pathKeeps segment = segment := by
  refine Text.Percent.encode_of_kept fun c hc => ?_
  exact ⟨Text.Percent.ascii_of_isComponentChar (h c hc), (isComponentChar_facts (h c hc)).2.2.2.2.2⟩

theorem splitSlashes_intercalate (settled : ∀ s ∈ segments, IsSettled s) (nonempty : segments ≠ []) :
    splitSlashes (List.intercalate ['/'] segments) = segments := by
  have same : (List.intercalate ['/'] segments).map (fun c => if isSlash c then '/' else c) =
      List.intercalate ['/'] segments := by
    refine (List.map_congr_left fun c hc => ?_).trans (List.map_id _)
    obtain rfl | ⟨s, hs, hc⟩ := Text.mem_joined hc
    · rfl
    · rw [if_neg (by simp [(isComponentChar_facts (settled s hs c hc)).2.1])]
      rfl
  unfold splitSlashes
  rw [same]
  exact List.splitOn_intercalate '/' (fun s hs hc => (isComponentChar_facts (settled s hs _ hc)).2.2.1 rfl) nonempty

/-- A segment that is no step: neither the place itself nor the one above. -/
def isStill (segment : List Char) : Bool := !isSingleDot segment && !isDoubleDot segment

theorem resolveSegments_last (settled : IsSettled segment) :
    resolveSegments done [segment] =
      if isDoubleDot segment then done.dropLast ++ [[]]
      else if isSingleDot segment then done ++ [[]]
      else done ++ [segment] := by
  rw [resolveSegments, encode_of_settled settled]

theorem resolveSegments_next (settled : IsSettled segment) (more : rest ≠ []) :
    resolveSegments done (segment :: rest) =
      if isDoubleDot segment then resolveSegments done.dropLast rest
      else if isSingleDot segment then resolveSegments done rest
      else resolveSegments (done ++ [segment]) rest := by
  rw [resolveSegments.eq_3 _ _ _ more, encode_of_settled settled]

/-- **Segments are left as they are**, up to a rest that may have steps. -/
theorem resolveSegments_of_plain (settled : ∀ s ∈ segments, IsSettled s) (still : ∀ s ∈ segments, isStill s = true)
    (more : rest ≠ []) : resolveSegments done (segments ++ rest) = resolveSegments (done ++ segments) rest := by
  induction segments generalizing done with
  | nil => rw [List.nil_append, List.append_nil]
  | cons s segments ih =>
    have hs := still s List.mem_cons_self
    unfold isStill at hs
    simp only [Bool.and_eq_true, Bool.not_eq_true'] at hs
    rw [List.cons_append, resolveSegments_next (settled s List.mem_cons_self)
      (List.append_ne_nil_of_right_ne_nil _ more),
      if_neg (by simp [hs.2]), if_neg (by simp [hs.1]),
      ih (fun s hs => settled s (List.mem_cons_of_mem _ hs)) (fun s hs => still s (List.mem_cons_of_mem _ hs)),
      List.append_assoc, List.singleton_append]

theorem resolveSegments_still (settled : ∀ s ∈ segments, IsSettled s) (still : ∀ s ∈ segments, isStill s = true) :
    resolveSegments done segments = done ++ segments := by
  obtain rfl | ⟨init, last, rfl⟩ := segments.eq_nil_or_concat
  · rw [resolveSegments, List.append_nil]
  · rw [List.concat_eq_append] at settled still ⊢
    have hlast := still last (by simp)
    unfold isStill at hlast
    simp only [Bool.and_eq_true, Bool.not_eq_true'] at hlast
    rw [resolveSegments_of_plain (fun s hs => settled s (List.mem_append_left _ hs))
        (fun s hs => still s (List.mem_append_left _ hs)) (List.cons_ne_nil _ _),
      resolveSegments_last (settled last (by simp)), if_neg (by simp [hlast.2]), if_neg (by simp [hlast.1]),
      List.append_assoc]

theorem length_resolveSegments_last (done : List (List Char)) (settled : IsSettled segment) :
    (resolveSegments done [segment]).length ≤ done.length + 1 := by
  rw [resolveSegments_last settled]
  split
  · simp
  split
  · simp
  · simp

/-! ## Dots -/

theorem dots_other (plain : c ≠ '.') (open? : c ≠ '%') : dots (c :: cs) = none := by
  rw [dots.eq_5]
  · exact nofun
  · exact fun _ h => plain (List.cons.inj h).1
  · exact fun _ h => open? (List.cons.inj h).1
  · exact fun _ h => open? (List.cons.inj h).1

theorem dots_escape {n m : Nat} (hn : n < 16) (hm : m < 16) (other : ¬ (n = 2 ∧ m = 14)) :
    dots ('%' :: Text.Hex.upper n :: Text.Hex.upper m :: cs) = none := by
  have two : ∀ n < 16, Text.Hex.upper n = '2' → n = 2 := by decide
  have small : ∀ m < 16, Text.Hex.upper m ≠ 'e' := by decide
  have capital : ∀ m < 16, Text.Hex.upper m = 'E' → m = 14 := by decide
  rw [dots.eq_5]
  · exact nofun
  · exact fun _ h => absurd (List.cons.inj h).1 (by decide)
  · exact fun _ h => small m hm (List.cons.inj (List.cons.inj (List.cons.inj h).2).2).1
  · intro _ h
    obtain ⟨h₁, h₂⟩ := List.cons.inj (List.cons.inj h).2
    exact other ⟨two n hn h₁, capital m hm (List.cons.inj h₂).1⟩

/-- A name is encoded as dots only if it is dots. -/
theorem dots_encodeBytes (bs : Text.Utf8.Bytes) :
    dots (encodeBytes isUnreserved bs) = if bs.all (· == 46) then some bs.length else none := by
  induction bs with
  | nil => rfl
  | cons b bs ih =>
    have small := b.toNat_lt
    unfold encodeBytes at ih ⊢
    rw [List.flatMap_cons, List.all_cons]
    by_cases dot : b = 46
    · subst dot
      show dots ('.' :: bs.flatMap (encodeByte isUnreserved)) = _
      rw [dots.eq_2, ih]
      cases bs.all (· == 46) <;> rfl
    have value : b.toNat ≠ 46 := fun h => dot (UInt8.toNat_inj.1 h)
    rw [beq_eq_false_iff_ne.2 dot, Bool.false_and, if_neg Bool.false_ne_true]
    unfold encodeByte
    split
    · rename_i kept
      have bounds := Text.Percent.isUnreserved_bounds kept
      have hn := Text.Percent.toNat_ofNat_byte (show b.toNat < 128 by omega)
      refine dots_other (fun h => ?_) (fun h => ?_)
      · exact value (hn.symm.trans (congrArg Char.toNat h))
      · have open? : b.toNat = 37 := hn.symm.trans (congrArg Char.toNat h)
        omega
    · exact dots_escape (by omega) (by omega) (by omega)

theorem dots_component (s : String) :
    dots (component s).toList =
      if (Text.Utf8.ofString s).all (· == 46) then some (Text.Utf8.ofString s).length else none := by
  unfold component
  rw [String.toList_ofList]
  exact dots_encodeBytes _

theorem eq_replicate_of_dots {s : String} {n : Nat} (h : dots (component s).toList = some n) :
    Text.Utf8.ofString s = List.replicate n 46 := by
  rw [dots_component] at h
  split at h
  · rename_i all
    cases h
    exact List.eq_replicate_iff.2 ⟨rfl, by simpa using all⟩
  · cases h

theorem isSingleDot_component_iff {s : String} : isSingleDot (component s).toList = true ↔ s = "." := by
  unfold isSingleDot
  rw [beq_iff_eq]
  constructor
  · exact fun h => Text.Utf8.ofString_injective (eq_replicate_of_dots h)
  · rintro rfl
    decide

theorem isDoubleDot_component_iff {s : String} : isDoubleDot (component s).toList = true ↔ s = ".." := by
  unfold isDoubleDot
  rw [beq_iff_eq]
  constructor
  · exact fun h => Text.Utf8.ofString_injective (eq_replicate_of_dots h)
  · rintro rfl
    decide

theorem isStill_component_iff {s : String} : isStill (component s).toList = true ↔ s ≠ "." ∧ s ≠ ".." := by
  unfold isStill
  rw [Bool.and_eq_true, Bool.not_eq_true', Bool.not_eq_true', ← Bool.not_eq_true, ← Bool.not_eq_true,
    isSingleDot_component_iff, isDoubleDot_component_iff]

end SearchDomain.Http.Url
