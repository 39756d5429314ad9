import Mathlib.Data.List.Forall2
import SearchDomain.DomainApi.Path
import SearchDomain.Proofs.Http.Url
/-!
# Path — a path tells the names it was built from

A path has a fixed front and one segment for each name. Cut at its slashes and decoded, it gives back the names,
whatever characters they are made of (`spells_names`). So a name can end neither its segment nor the path, and different
names have different paths.
-/
namespace SearchDomain.DomainApi.Path

open Text.Percent (component encodeByte encodeBytes escape isComponentChar isUnreserved)

variable {path front name : String} {names names' : List String} {cs ds after : List Char}

/-- The characters of paths. -/
def isPathChar (c : Char) : Bool := c.isAlphanum || "-._~%/".toList.contains c

def isUpperHex (c : Char) : Bool := c.isDigit || ('A'.toNat ≤ c.toNat && c.toNat ≤ 'F'.toNat)

/-- Every percent sign is the start of an escape, of two digits that are written in upper case. -/
def IsEscaped (cs : List Char) : Prop :=
  ∀ after, '%' :: after <:+ cs →
    ∃ high low rest, after = high :: low :: rest ∧ isUpperHex high = true ∧ isUpperHex low = true

/-- A segment that is read as a name. -/
def IsSegment (segment : List Char) (name : String) : Prop :=
  Text.Utf8.decode (Text.Percent.decode segment) = .ok name

/-- A path behind whose front there are the segments of some names, and nothing else. -/
structure Spells (path front : String) (names : List String) : Prop where
  chars : ∀ c ∈ path.toList, isPathChar c = true
  escaped : IsEscaped path.toList
  segments : ∃ rest, path.toList = front.toList ++ rest ∧ List.Forall₂ IsSegment (rest.splitOn '/') names
  /-- As part of an address, the path has no query and no fragment behind it. -/
  whole : Http.Url.splitTail path.toList = (path.toList, none, none)

/-! ## Escapes -/

theorem isEscaped_nil : IsEscaped [] := fun _ h => nomatch List.suffix_nil.1 h

theorem isEscaped_cons {c : Char} (plain : c ≠ '%') (h : IsEscaped cs) : IsEscaped (c :: cs) := by
  intro after suffix
  obtain he | suffix := List.suffix_cons_iff.1 suffix
  · exact absurd (List.cons.inj he).1.symm plain
  · exact h after suffix

theorem isEscaped_append (plain : '%' ∉ cs) (h : IsEscaped ds) : IsEscaped (cs ++ ds) := by
  induction cs with
  | nil => exact h
  | cons c cs ih =>
    exact isEscaped_cons (fun he => plain (he ▸ List.mem_cons_self)) (ih fun hc => plain (List.mem_cons_of_mem c hc))

theorem isUpperHex_upper {n : Nat} (h : n < 16) : isUpperHex (Text.Hex.upper n) = true ∧ Text.Hex.upper n ≠ '%' := by
  revert n
  decide

theorem isEscaped_escape (b : UInt8) (h : IsEscaped cs) : IsEscaped (escape b ++ cs) := by
  have small := b.toNat_lt
  obtain ⟨high, highPlain⟩ := isUpperHex_upper (show b.toNat / 16 < 16 by omega)
  obtain ⟨low, lowPlain⟩ := isUpperHex_upper (show b.toNat % 16 < 16 by omega)
  have digits : IsEscaped (Text.Hex.upper (b.toNat / 16) :: Text.Hex.upper (b.toNat % 16) :: cs) :=
    isEscaped_cons highPlain (isEscaped_cons lowPlain h)
  intro after suffix
  obtain he | suffix := List.suffix_cons_iff.1 suffix
  · exact ⟨_, _, cs, (List.cons.inj he).2, high, low⟩
  · exact digits after suffix

theorem isEscaped_encodeBytes (bs : Text.Utf8.Bytes) (h : IsEscaped cs) :
    IsEscaped (encodeBytes isUnreserved bs ++ cs) := by
  induction bs with
  | nil => exact h
  | cons b bs ih =>
    unfold encodeBytes at ih ⊢
    rw [List.flatMap_cons, List.append_assoc]
    unfold encodeByte
    split
    · rename_i kept
      obtain ⟨low, high⟩ := Text.Percent.isUnreserved_bounds kept
      refine isEscaped_cons (fun he => ?_) ih
      have value := congrArg Char.toNat he
      rw [Text.Percent.toNat_ofNat_byte (by omega)] at value
      have percent : '%'.toNat = 37 := rfl
      omega
    · exact isEscaped_escape b ih

theorem isEscaped_component (name : String) (h : IsEscaped cs) : IsEscaped ((component name).toList ++ cs) := by
  unfold component
  rw [String.toList_ofList]
  exact isEscaped_encodeBytes _ h

/-! ## Segments behind a front -/

theorem isPathChar_of_isComponentChar {c : Char} (h : isComponentChar c = true) :
    isPathChar c = true ∧ c ≠ '/' ∧ c ≠ '?' ∧ c ≠ '#' :=
  Text.Percent.of_ascii (p := fun c => isComponentChar c = true → isPathChar c = true ∧ c ≠ '/' ∧ c ≠ '?' ∧ c ≠ '#')
    (by decide) (Text.Percent.ascii_of_isComponentChar h) h

/-- The segments of names, with slashes between them. -/
def joined (names : List String) : List Char := List.intercalate ['/'] (names.map fun name => (component name).toList)

theorem isPathChar_of_mem_joined {c : Char} (h : c ∈ joined names) : isPathChar c = true ∧ c ≠ '?' ∧ c ≠ '#' := by
  obtain rfl | ⟨segment, hs, hc⟩ := Text.mem_joined h
  · decide
  · obtain ⟨name, -, rfl⟩ := List.mem_map.1 hs
    obtain ⟨inPath, -, query, fragment⟩ := isPathChar_of_isComponentChar (Text.Percent.isComponentChar_of_mem name c hc)
    exact ⟨inPath, query, fragment⟩

theorem isEscaped_joined (names : List String) : IsEscaped (joined names) := by
  unfold joined
  induction names with
  | nil => exact isEscaped_nil
  | cons name names ih =>
    cases names with
    | nil =>
      rw [List.map_singleton, List.intercalate_singleton, ← List.append_nil (component name).toList]
      exact isEscaped_component name isEscaped_nil
    | cons name' names =>
      rw [List.map_cons, List.map_cons, List.intercalate_cons_cons, List.append_assoc]
      exact isEscaped_component name (isEscaped_cons (by decide) ih)

theorem forall₂_splitOn_joined (nonempty : names ≠ []) : List.Forall₂ IsSegment ((joined names).splitOn '/') names := by
  have apart : ∀ segment ∈ names.map fun name => (component name).toList, '/' ∉ segment := by
    intro segment hs hc
    obtain ⟨name, -, rfl⟩ := List.mem_map.1 hs
    exact (isPathChar_of_isComponentChar (Text.Percent.isComponentChar_of_mem name _ hc)).2.1 rfl
  unfold joined
  rw [List.splitOn_intercalate '/' apart (fun h => nonempty (List.map_eq_nil_iff.1 h)), List.forall₂_map_left_iff,
    List.forall₂_same]
  intro name _
  unfold IsSegment
  rw [Text.Percent.decode_component, Text.Utf8.decode_ofString]

/-- A front without escapes, and the segments of names behind it. -/
theorem spells_of_eq (nonempty : names ≠ [])
    (plain : ∀ c ∈ front.toList, isPathChar c = true ∧ c ≠ '%' ∧ c ≠ '?' ∧ c ≠ '#')
    (path_eq : path.toList = front.toList ++ joined names) : Spells path front names := by
  have facts : ∀ c ∈ path.toList, isPathChar c = true ∧ c ≠ '?' ∧ c ≠ '#' := by
    intro c hc
    rw [path_eq] at hc
    obtain hc | hc := List.mem_append.1 hc
    · exact ⟨(plain c hc).1, (plain c hc).2.2⟩
    · exact isPathChar_of_mem_joined hc
  have tail : Http.Url.splitTail (path.toList ++ Http.Url.marked '?' none) = (path.toList, none, none) :=
    Http.Url.splitTail_spelled (fun c hc => (facts c hc).2) nofun
  rw [Http.Url.marked, List.append_nil] at tail
  exact {
    chars := fun c hc => (facts c hc).1
    escaped := by
      rw [path_eq]
      exact isEscaped_append (fun h => (plain _ h).2.1 rfl) (isEscaped_joined names)
    segments := ⟨joined names, path_eq, forall₂_splitOn_joined nonempty⟩
    whole := tail }

/-- **A path spells its names alone**: what is read off it is what it was built from. -/
theorem Spells.names_eq (h : Spells path front names) (h' : Spells path front names') : names = names' := by
  obtain ⟨rest, hpath, spelled⟩ := h.segments
  obtain ⟨rest', hpath', spelled'⟩ := h'.segments
  obtain rfl := List.append_cancel_left (hpath.symm.trans hpath')
  have unique : Relator.RightUnique IsSegment := fun _ _ _ hn hn' => Except.ok.inj (hn.symm.trans hn')
  exact List.right_unique_forall₂' unique spelled spelled'

/-! ## The paths with names -/

def usersFront : String := "_plugins/_security/api/internalusers/"

def templatesFront : String := "_index_template/"

def objectsFront : String := "_dashboards/api/saved_objects/"

theorem plain_fronts : ∀ front ∈ [usersFront, templatesFront, objectsFront], ∀ c ∈ front.toList,
    isPathChar c = true ∧ c ≠ '%' ∧ c ≠ '?' ∧ c ≠ '#' := by
  have all : ∀ front ∈ [usersFront, templatesFront, objectsFront],
      front.toList.all (fun c => isPathChar c && c != '%' && c != '?' && c != '#') = true := by decide
  intro front hf c hc
  simpa [and_assoc] using List.all_eq_true.1 (all front hf) c hc

theorem spells_internalUser (username : String) : Spells (internalUser username) usersFront [username] := by
  refine spells_of_eq (List.cons_ne_nil _ _) (plain_fronts _ (by simp)) ?_
  unfold internalUser joined usersFront
  rw [String.toList_append, List.map_singleton, List.intercalate_singleton]

theorem spells_indexTemplate (name : String) : Spells (indexTemplate name) templatesFront [name] := by
  refine spells_of_eq (List.cons_ne_nil _ _) (plain_fronts _ (by simp)) ?_
  unfold indexTemplate joined templatesFront
  rw [String.toList_append, List.map_singleton, List.intercalate_singleton]

theorem spells_savedObject (kind id : String) : Spells (savedObject kind id) objectsFront [kind, id] := by
  refine spells_of_eq (List.cons_ne_nil _ _) (plain_fronts _ (by simp)) ?_
  have slash : "/".toList = ['/'] := by decide
  unfold savedObject joined objectsFront
  rw [String.toList_append, String.toList_append, String.toList_append, slash, List.map_cons, List.map_singleton,
    List.intercalate_cons_cons, List.intercalate_singleton]
  simp only [List.append_assoc]

/-- **Paths can be taken apart.** Whatever characters the names are made of, the paths of users, index templates and
saved objects spell them behind their fronts, and no two names, or kinds and ids, have one path. -/
theorem spells_names :
    (∀ username, Spells (internalUser username) "_plugins/_security/api/internalusers/" [username]) ∧
    (∀ name, Spells (indexTemplate name) "_index_template/" [name]) ∧
    (∀ kind id, Spells (savedObject kind id) "_dashboards/api/saved_objects/" [kind, id]) ∧
    Function.Injective internalUser ∧ Function.Injective indexTemplate ∧ Function.Injective2 savedObject := by
  refine ⟨spells_internalUser, spells_indexTemplate, spells_savedObject, ?_, ?_, ?_⟩
  · intro username username' h
    have spells := spells_internalUser username
    rw [h] at spells
    exact List.singleton_inj.1 (spells.names_eq (spells_internalUser username'))
  · intro name name' h
    have spells := spells_indexTemplate name
    rw [h] at spells
    exact List.singleton_inj.1 (spells.names_eq (spells_indexTemplate name'))
  · intro kind kind' id id' h
    have spells := spells_savedObject kind id
    rw [h] at spells
    obtain ⟨hkind, hid⟩ := List.cons.inj (spells.names_eq (spells_savedObject kind' id'))
    exact ⟨hkind, List.singleton_inj.1 hid⟩

end SearchDomain.DomainApi.Path
