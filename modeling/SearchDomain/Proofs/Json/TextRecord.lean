import Mathlib.Data.List.Nodup
import SearchDomain.Proofs.Json.Placing
/-!
# TextRecord — records of texts and their documents

A record whose fields are all texts is read from an object exactly if each field occurs once among its members, with a
string (`IsTexts.reads_object_iff`), from a list exactly if that is its strings in order (`IsTexts.reads_list_iff`), and
from what is written for it. The other members, their order and the blanks in between make no difference.
-/
namespace SearchDomain.Json

variable {δ α : Type} {layout : Layout δ α} {depth : Nat} {draft draft' : δ} {cs : List Char}
  {members : List (String × List Char)} {items : List (List Char)}

/-- A field that is a text: where the draft has it, and where the record has it. -/
structure TextField (δ α : Type) where
  name : String
  get : δ → Option String
  set : String → δ → δ
  of : α → String

def TextField.field (f : TextField δ α) : Field δ := .of f.name f.get f.set false fun _ => text

namespace Layout

/-- A layout of texts: the fields know nothing of each other, and the record is complete when all are there. -/
structure IsTexts (layout : Layout δ α) (fields : List (TextField δ α)) : Prop where
  fields_eq : layout.fields = fields.map TextField.field
  names : (fields.map (·.name)).Nodup
  blank : ∀ f ∈ fields, f.get layout.blank = none
  get_set : ∀ f ∈ fields, ∀ s draft, f.get (f.set s draft) = some s
  get_set_other : ∀ f ∈ fields, ∀ g ∈ fields, f.name ≠ g.name → ∀ s draft, g.get (f.set s draft) = g.get draft
  finish : ∀ draft x, layout.finish draft = .ok x ↔ ∀ f ∈ fields, f.get draft = some (f.of x)

/-- A draft goes on to be completed exactly if it has the field. -/
theorem getDM_bind_eq_ok {β : Type} {held : Option α} {name : String} {f : α → Except String β} {y : β} :
    (held.getDM (throw name) >>= f) = .ok y ↔ ∃ x, held = some x ∧ f x = .ok y := by
  cases held with
  | none =>
    constructor
    · intro h
      cases h
    · rintro ⟨x, h, -⟩
      cases h
  | some x =>
    constructor
    · exact fun ok => ⟨x, rfl, ok⟩
    · rintro ⟨x, ⟨⟩, ok⟩
      exact ok

/-- Among the members the field occurs once, with this string. -/
def Once (members : List (String × List Char)) (name s : String) : Prop :=
  ∃ literal, members.filter (fun m => m.1 = name) = [(name, literal)] ∧ Literal s literal

end Layout

/-- Only a literal is read as a text. -/
theorem reads_text_iff {s : String} (h : ValueText cs) : Reads text cs s ↔ Literal s cs := by
  refine ⟨fun reads => ?_, Literal.reads_text⟩
  rcases h.literal_or_head with ⟨t, literal⟩ | ⟨c, tail, rfl, blank, quote⟩
  · exact literal.reads_text.unique reads ▸ literal
  · exact absurd (refuses_text blank quote) reads.not_refuses

namespace Layout.IsTexts

variable {fields : List (TextField δ α)} {f g : TextField δ α}

theorem find?_field (texts : IsTexts layout fields) (hf : f ∈ fields) :
    layout.fields.find? (·.name = f.name) = some f.field := by
  have names := texts.names
  rw [texts.fields_eq]
  clear texts
  induction fields with
  | nil => cases hf
  | cons g fields ih =>
    obtain ⟨fresh, names⟩ := List.nodup_cons.1 names
    rw [List.map_cons, List.find?_cons]
    rcases List.mem_cons.1 hf with rfl | hf
    · have hname : f.field.name = f.name := rfl
      simp only [hname, decide_true]
    · have hname : ¬ g.field.name = f.name := fun he => fresh (List.mem_map.2 ⟨f, hf, he.symm⟩)
      simp only [hname, decide_false]
      exact ih hf names

theorem keeps_other (texts : IsTexts layout fields) (hf : f ∈ fields) :
    ∀ field ∈ layout.fields, field.name ≠ f.name → Keeps f.get field := by
  intro field hfield hname
  rw [texts.fields_eq] at hfield
  obtain ⟨g, hg, rfl⟩ := List.mem_map.1 hfield
  exact keeps_of fun s draft => texts.get_set_other g hg f hf hname s draft

theorem skipsBlanks (texts : IsTexts layout fields) : layout.SkipsBlanks := by
  intro field hfield depth draft
  rw [texts.fields_eq] at hfield
  obtain ⟨f, -, rfl⟩ := List.mem_map.1 hfield
  exact text_skipsBlanks.field draft

theorem settles (texts : IsTexts layout fields) (depth : Nat) : layout.Settles depth := by
  intro field hfield draft cs value
  rw [texts.fields_eq] at hfield
  obtain ⟨f, -, rfl⟩ := List.mem_map.1 hfield
  exact (settled_text value).field draft

/-! ## From members to fields -/

theorem held_iff (values : ∀ member ∈ members, ValueText member.2) {name s : String} :
    Held members name text (some s) ↔ Once members name s :=
  exists_congr fun _ => and_congr_right fun occurs => reads_text_iff (values _ (mem_of_filter occurs))

/-- Members among which each field has its string make up the record. -/
theorem finish_of_mem (texts : IsTexts layout fields) (gathers : Gathers layout depth layout.blank members draft)
    {x : α}
    (named : ∀ f ∈ fields, ∃ literal, (f.name, literal) ∈ members ∧ Literal (f.of x) literal) :
    layout.finish draft = .ok x := by
  refine (texts.finish draft x).2 fun f hf => ?_
  obtain ⟨literal, hm, spelled⟩ := named f hf
  obtain ⟨s, reads, holds⟩ := gathers.holds f.get (texts.find?_field hf) (texts.keeps_other hf)
    (fun s draft => texts.get_set f hf s draft) hm
  rwa [reads.unique spelled.reads_text] at holds

theorem gathers_of_once (texts : IsTexts layout fields) (values : ∀ member ∈ members, ValueText member.2) {x : α}
    (once : ∀ f ∈ fields, Once members f.name (f.of x)) :
    ∃ draft, Gathers layout depth layout.blank members draft ∧ layout.finish draft = .ok x := by
  have keeps : ∀ f ∈ layout.fields, ∀ g ∈ layout.fields, f.name ≠ g.name → Keeps f.filled g := by
    rw [texts.fields_eq]
    refine List.forall_mem_map.2 fun f hf => List.forall_mem_map.2 fun g hg other => ?_
    exact keeps_of fun s draft => congrArg Option.isSome (texts.get_set_other g hg f hf (Ne.symm other) s draft)
  have due : ∀ field ∈ layout.fields, Due depth layout.blank members field := by
    rw [texts.fields_eq]
    exact List.forall_mem_map.2 fun f hf => ((held_iff values).2 (once f hf)).due (texts.blank f hf)
  obtain ⟨draft, gathers⟩ := gathers_of_due values keeps due
  refine ⟨draft, gathers, texts.finish_of_mem gathers fun f hf => ?_⟩
  obtain ⟨literal, occurs, spelled⟩ := once f hf
  exact ⟨literal, mem_of_filter occurs, spelled⟩

/-- **An object is read exactly if each field occurs once in it, with a string**, and then as those strings. -/
theorem reads_object_iff (texts : IsTexts layout fields) (spelled : ObjectText members cs)
    (values : ∀ member ∈ members, ValueText member.2) {x : α} :
    Reads (layout.read (depth + 1)) cs x ↔ ∀ f ∈ fields, Once members f.name (f.of x) := by
  constructor
  · intro reads f hf
    obtain ⟨draft, gathers, finish, -⟩ := gathers_of_read texts.skipsBlanks spelled
      (fun member hm => (texts.settles depth).member (values member hm)) (reads [] delimited_nil)
    have held := gathers.held f.get (texts.find?_field hf) (texts.keeps_other hf)
      (fun s draft => texts.get_set f hf s draft) (texts.blank f hf)
    rw [(texts.finish draft x).1 finish f hf] at held
    exact (held_iff values).1 held
  · intro once
    obtain ⟨draft, gathers, finish⟩ := texts.gathers_of_once values once
    exact gathers.reads texts.skipsBlanks spelled finish

/-- What the text of a value is decoded to, blanks around it or not, is what it is read as. -/
theorem ofText_iff_reads (texts : IsTexts layout fields) (value : ValueText cs) {b b' : List Char} (before : Blank b)
    (after : Blank b') {x : α} :
    layout.ofText (String.ofList (b ++ (cs ++ b'))) = .ok x ↔ Reads (layout.read maxDepth) cs x :=
  ⟨reads_of_ofText (settled_record texts.skipsBlanks (texts.settles _) value) before after,
    fun reads => ofText_of_reads reads before after⟩

/-- **An object is decoded exactly if each field occurs once in it, with a string**, and then to those strings. -/
theorem ofText_iff (texts : IsTexts layout fields) (spelled : ObjectText members cs)
    (values : ∀ member ∈ members, ValueText member.2) {b b' : List Char} (before : Blank b) (after : Blank b') (x : α) :
    layout.ofText (String.ofList (b ++ (cs ++ b'))) = .ok x ↔ ∀ f ∈ fields, Once members f.name (f.of x) :=
  (texts.ofText_iff_reads (.object spelled values) before after).trans (texts.reads_object_iff spelled values)

/-! ## From items to fields -/

theorem keeps_rest (texts : IsTexts layout fields) {gs : List (TextField δ α)} (hg : g ∈ fields) (sub : gs ⊆ fields)
    (fresh : g.name ∉ gs.map (·.name)) : ∀ field ∈ gs.map TextField.field, Keeps g.get field :=
  List.forall_mem_map.2 fun f hf => keeps_of fun s draft =>
    texts.get_set_other f (sub hf) g hg (fun he => fresh (List.mem_map.2 ⟨f, hf, he⟩)) s draft

/-- Literals in the order of some fields can be placed, and the fields hold their strings. -/
theorem places_of_literals (texts : IsTexts layout fields) (depth : Nat) {gs : List (TextField δ α)} (sub : gs ⊆ fields)
    (names : (gs.map (·.name)).Nodup) {x : α}
    (spelled : List.Forall₂ (fun g literal => Literal (g.of x) literal) gs items) (draft : δ) :
    ∃ draft', Places depth (gs.map TextField.field) draft items draft' ∧ ∀ g ∈ gs, g.get draft' = some (g.of x) := by
  induction spelled generalizing draft with
  | nil => exact ⟨draft, .nil draft fun field hf => (nomatch hf), fun g hg => nomatch hg⟩
  | @cons g literal gs items first _ ih =>
    obtain ⟨fresh, names⟩ := List.nodup_cons.1 names
    have hg := sub List.mem_cons_self
    have sub' : gs ⊆ fields := fun f hf => sub (List.mem_cons_of_mem _ hf)
    obtain ⟨draft', places, holds⟩ := ih sub' names (g.set (g.of x) draft)
    have kept := places.keeps (texts.keeps_rest hg sub' fresh)
    exact ⟨draft', .cons (first.reads_text.map fun s => g.set s draft) places,
      List.forall_mem_cons.2 ⟨kept.trans (texts.get_set g hg _ _), holds⟩⟩

/-- Items that have been placed are literals, and the fields hold their strings. -/
theorem literals_of_places (texts : IsTexts layout fields) {gs : List (TextField δ α)} (sub : gs ⊆ fields)
    (names : (gs.map (·.name)).Nodup) (values : ∀ item ∈ items, ValueText item)
    (places : Places depth (gs.map TextField.field) draft items draft') :
    List.Forall₂ (fun g literal => ∃ s, g.get draft' = some s ∧ Literal s literal) gs items := by
  induction gs generalizing items draft with
  | nil =>
    cases places
    exact .nil
  | cons g gs ih =>
    obtain ⟨fresh, names⟩ := List.nodup_cons.1 names
    have hg := sub List.mem_cons_self
    cases places with
    | nil _ omittable => exact absurd (omittable g.field List.mem_cons_self) Bool.false_ne_true
    | @cons _ _ _ _ _ item items first rest =>
      obtain ⟨s, reads, holds⟩ := reads_of_field (texts.get_set g hg) first
      have sub' : gs ⊆ fields := fun f hf => sub (List.mem_cons_of_mem _ hf)
      have kept := rest.keeps (texts.keeps_rest hg sub' fresh)
      exact .cons ⟨s, kept.trans holds, (reads_text_iff (values item List.mem_cons_self)).1 reads⟩
        (ih sub' names (fun item hi => values item (List.mem_cons_of_mem _ hi)) rest)

/-- **A list is read exactly if it is the strings in order.** -/
theorem reads_list_iff (texts : IsTexts layout fields) (array : ArrayText items cs)
    (values : ∀ item ∈ items, ValueText item) {x : α} : Reads (layout.read (depth + 1)) cs x ↔
      List.Forall₂ (fun f literal => Literal (f.of x) literal) fields items := by
  have begins := fun item hi => (values item hi).begins
  constructor
  · intro reads
    obtain ⟨draft, places, finish⟩ := places_of_reads begins
      (fun field hfield item hi draft => texts.settles depth field hfield draft (values item hi)) array reads
    rw [texts.fields_eq] at places
    have literals := texts.literals_of_places (List.Subset.refl _) texts.names values places
    refine ((List.forall₂_and_left ..).2 ⟨(texts.finish draft x).1 finish, literals⟩).imp ?_
    rintro f literal ⟨holds, s, holds', spelled⟩
    exact Option.some.inj (holds'.symm.trans holds) ▸ spelled
  · intro spelled
    obtain ⟨draft, places, holds⟩ := texts.places_of_literals depth
      (List.Subset.refl _) texts.names spelled layout.blank
    rw [← texts.fields_eq] at places
    exact places.reads begins array ((texts.finish draft x).2 holds)

/-- **A list of the strings in order is decoded** as the record that has them. -/
theorem ofText_list (texts : IsTexts layout fields) (x : α) {items : List (List Char)} (array : ArrayText items cs)
    (spelled : List.Forall₂ (fun f literal => Literal (f.of x) literal) fields items) {b b' : List Char}
    (before : Blank b) (after : Blank b') : layout.ofText (String.ofList (b ++ (cs ++ b'))) = .ok x := by
  have values : ∀ item ∈ items, ValueText item :=
    ((List.forall₂_and_left ..).1 (spelled.flip.imp fun item f literal => ⟨ValueText.string literal, literal⟩)).1
  exact ofText_of_reads ((texts.reads_list_iff array values).2 spelled) before after

/-! ## What is written -/

theorem once_written {gs : List (TextField δ α)} (names : (gs.map (·.name)).Nodup) (hf : f ∈ gs) (x : α) :
    Once (gs.map fun g => (g.name, (Json.string (g.of x)).write)) f.name (f.of x) := by
  refine ⟨(Json.string (f.of x)).write, ?_, literal_writeString (f.of x)⟩
  induction gs with
  | nil => cases hf
  | cons g gs ih =>
    obtain ⟨fresh, names⟩ := List.nodup_cons.1 names
    rw [List.map_cons]
    rcases List.mem_cons.1 hf with rfl | hf
    · rw [filter_cons_same]
      refine congrArg _ (List.filter_eq_nil_iff.2 fun m hm he => ?_)
      obtain ⟨g, hg, rfl⟩ := List.mem_map.1 hm
      exact fresh (List.mem_map.2 ⟨g, hg, of_decide_eq_true he⟩)
    · have other : g.name ≠ f.name := fun he => fresh (List.mem_map.2 ⟨f, hf, he.symm⟩)
      rw [filter_cons_other other]
      exact ih names hf

/-- What is written for a record is read as that record, whatever follows. -/
theorem reads_written (texts : IsTexts layout fields) (x : α) (depth : Nat) :
    Reads (layout.read (depth + 1)) (Json.object (fields.map fun f => (f.name, .string (f.of x)))).write x := by
  have spelled := objectText_write (fields.map fun f => (f.name, Json.string (f.of x)))
  rw [List.map_map] at spelled
  refine (texts.reads_object_iff spelled ?_).2 fun f hf => once_written texts.names hf x
  exact List.forall_mem_map.2 fun f _ => .string (literal_writeString (f.of x))

/-- **What is written for a record is decoded** as that record. -/
theorem ofText_written (texts : IsTexts layout fields) (x : α) :
    layout.ofText (Json.object (fields.map fun f => (f.name, .string (f.of x)))).render = .ok x := by
  have decoded := ofText_of_reads (texts.reads_written x (maxDepth - 1)) blank_nil blank_nil
  rwa [List.nil_append, List.append_nil] at decoded

end Layout.IsTexts
end SearchDomain.Json
