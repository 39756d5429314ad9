import SearchDomain.Lifecycle
import SearchDomain.Proofs.Json.TextRecord
/-!
# Lifecycle — what a create reports comes back to a delete

A saved object has documents of two kinds, and is read from nothing else (`SavedObject.reads_iff`). The saved objects
of a response are written and read back as they were, whatever their types and ids are (`Captured.reads_toJson`). In the
text of an event the data are a member among others: put anywhere into an event that has none, they change nothing else
(`LifecycleEvent.WithData.ofText`).
-/
namespace SearchDomain

open Json (Blank Literal ObjectText Reads Settled SkipsBlanks ValueText)

namespace SavedObject

/-- The fields of an object, which are all texts. -/
def fields : List (Json.TextField Draft SavedObject) :=
  [⟨"type", (·.kind), fun s d => { d with kind := some s }, (·.kind)⟩,
    ⟨"id", (·.id), fun s d => { d with id := some s }, (·.id)⟩]

theorem layout_isTexts : layout.IsTexts fields where
  fields_eq := rfl
  names := by decide
  blank := by simp [fields, layout]
  get_set := by simp [fields]
  get_set_other := by simp [fields]
  finish draft o := by
    simp only [layout, Draft.finish, fields, Json.Layout.getDM_bind_eq_ok, List.forall_mem_cons, List.not_mem_nil,
      false_implies, implies_true, and_true]
    constructor
    · rintro ⟨k, hk, i, hi, he⟩
      cases he
      exact ⟨hk, hi⟩
    · rintro ⟨hk, hi⟩
      exact ⟨_, hk, _, hi, rfl⟩

/-- An object is read back from what was written for it. -/
theorem reads_toJson (o : SavedObject) (depth : Nat) : Reads (layout.read (depth + 1)) o.toJson.write o :=
  layout_isTexts.reads_written o depth

/-- The text of a value is read as an object, or is refused. -/
theorem settled {cs : List Char} (value : ValueText cs) (depth : Nat) : Settled (layout.read (depth + 1)) cs :=
  Json.Layout.settled_record layout_isTexts.skipsBlanks (layout_isTexts.settles depth) value

/-- A document of the object: one type and one id among the members of an object, or a list of just the two. -/
inductive Document (o : SavedObject) : List Char → Prop
  | members {members : List (String × List Char)} {cs : List Char} (text : ObjectText members cs)
      (values : ∀ member ∈ members, ValueText member.2) (kind : Json.Layout.Once members "type" o.kind)
      (id : Json.Layout.Once members "id" o.id) : Document o cs
  | pair {kind id cs : List Char} (text : Json.ArrayText [kind, id] cs) (kind : Literal o.kind kind)
      (id : Literal o.id id) : Document o cs

theorem Document.value {o : SavedObject} {cs : List Char} (h : o.Document cs) : ValueText cs := by
  cases h with
  | members text values => exact .object text values
  | pair text kind id =>
    exact .array text (List.forall_mem_cons.2 ⟨.string kind, List.forall_mem_singleton.2 (.string id)⟩)

/-- **A value is read as an object exactly if it is a document of it.** -/
theorem reads_iff {o : SavedObject} {cs : List Char} (value : ValueText cs) (depth : Nat) :
    Reads (layout.read (depth + 1)) cs o ↔ o.Document cs := by
  constructor
  · intro reads
    rcases value.brackets_or_head with
      ⟨items, array, values⟩ | ⟨members, object, values⟩ | ⟨c, tail, rfl, blank, list, brace⟩
    · have spelled := (layout_isTexts.reads_list_iff array values).1 reads
      cases spelled with
      | cons kind spelled =>
        cases spelled with
        | cons id none =>
          cases none
          exact .pair array kind id
    · have once := (layout_isTexts.reads_object_iff object values).1 reads
      exact .members object values (once _ List.mem_cons_self) (once _ (List.mem_cons_of_mem _ List.mem_cons_self))
    · exact absurd (Json.Layout.refuses_record blank list brace) reads.not_refuses
  · intro document
    cases document with
    | members text values kind id =>
      exact (layout_isTexts.reads_object_iff text values).2
        (List.forall_mem_cons.2 ⟨kind, List.forall_mem_singleton.2 id⟩)
    | pair text kind id =>
      have values := List.forall_mem_cons.2 ⟨ValueText.string kind, List.forall_mem_singleton.2 (ValueText.string id)⟩
      exact (layout_isTexts.reads_list_iff text values).2 (.cons kind (.cons id .nil))

/-- The text of a value is read as a list of objects, or is refused. -/
theorem settled_readList {cs : List Char} (value : ValueText cs) (depth : Nat) : Settled (readList (depth + 2)) cs :=
  Json.settled_sequence_value (fun item => settled item depth) value

/-- **A value is read as a list of objects exactly if it lists documents of them**, in order. -/
theorem reads_readList_iff {objects : List SavedObject} {cs : List Char} (value : ValueText cs) (depth : Nat) :
    Reads (readList (depth + 2)) cs objects ↔
      ∃ items, Json.ArrayText items cs ∧
        List.Forall₂ (fun item (o : SavedObject) => o.Document item) items objects := by
  refine (Json.reads_sequence_iff (fun item => settled item depth) value).trans (exists_congr fun items => ?_)
  refine and_congr_right fun array => ⟨?_, fun documents => ?_⟩
  · rintro ⟨values, reads⟩
    exact ((List.forall₂_and_left ..).2 ⟨values, reads⟩).imp fun item o h => (reads_iff h.1 depth).1 h.2
  · refine (List.forall₂_and_left ..).1 (documents.imp fun item o document => ?_)
    exact ⟨document.value, (reads_iff document.value depth).2 document⟩

/-- A text of the object: its type and its id are among the members, whatever else is. -/
inductive Spelled (o : SavedObject) : List Char → Prop
  | members {members : List (String × List Char)} {cs kind id : List Char} (text : ObjectText members cs)
      (values : ∀ member ∈ members, ValueText member.2) (kind_mem : ("type", kind) ∈ members)
      (kind_literal : Literal o.kind kind) (id_mem : ("id", id) ∈ members) (id_literal : Literal o.id id) : Spelled o cs

/-- What is written for an object is a text of it. -/
theorem spelled_toJson (o : SavedObject) : o.Spelled o.toJson.write := by
  refine .members (Json.objectText_write [("type", .string o.kind), ("id", .string o.id)]) ?_ List.mem_cons_self
    (Json.literal_writeString o.kind) (List.mem_cons_of_mem _ List.mem_cons_self) (Json.literal_writeString o.id)
  intro member hm
  simp only [List.map_cons, List.map_nil, List.mem_cons, List.not_mem_nil, or_false] at hm
  rcases hm with rfl | rfl
  · exact .string (Json.literal_writeString o.kind)
  · exact .string (Json.literal_writeString o.id)

theorem Spelled.value {o : SavedObject} {cs : List Char} (h : o.Spelled cs) : ValueText cs := by
  cases h with
  | members text values => exact .object text values

/-- **A text of an object is read as that object**, if it is read. -/
theorem Spelled.eq_of_reads {o o' : SavedObject} {cs : List Char} {depth : Nat} (h : o.Spelled cs)
    (reads : Reads (layout.read (depth + 1)) cs o') : o' = o := by
  cases h with
  | @members members _ kind id text values kind_mem kind_literal id_mem id_literal =>
    obtain ⟨draft, gathers, finish, -⟩ := Json.Layout.gathers_of_read layout_isTexts.skipsBlanks text
      (fun member hm => (layout_isTexts.settles depth).member (values member hm)) (reads [] Json.delimited_nil)
    have named : ∀ f ∈ fields, ∃ literal, (f.name, literal) ∈ members ∧ Literal (f.of o) literal :=
      List.forall_mem_cons.2 ⟨⟨kind, kind_mem, kind_literal⟩,
        List.forall_mem_cons.2 ⟨⟨id, id_mem, id_literal⟩, List.forall_mem_nil _⟩⟩
    exact Except.ok.inj (finish.symm.trans (layout_isTexts.finish_of_mem gathers named))

theorem values_of_spelled {items : List (List Char)} {objects : List SavedObject}
    (spelled : List.Forall₂ (fun item (o : SavedObject) => o.Spelled item) items objects) :
    ∀ item ∈ items, ValueText item :=
  ((List.forall₂_and_left ..).1 (spelled.imp fun _ _ h => ⟨h.value, h⟩)).1

/-- **A list of texts of objects is read as those objects**, in order, if it is read. -/
theorem eq_of_reads_readList {items : List (List Char)} {objects objects' : List SavedObject} {cs : List Char}
    {depth : Nat} (array : Json.ArrayText items cs)
    (spelled : List.Forall₂ (fun item (o : SavedObject) => o.Spelled item) items objects)
    (reads : Reads (readList (depth + 2)) cs objects') : objects' = objects := by
  have values := values_of_spelled spelled
  have taken := Json.forall₂_of_reads_sequence array (fun item hi => (values item hi).begins)
    (fun item hi => settled (values item hi) depth) reads
  clear array reads values
  induction spelled generalizing objects' with
  | nil =>
    cases taken
    rfl
  | cons first _ ih =>
    cases taken with
    | cons first' others => rw [first.eq_of_reads first', ih others]

end SavedObject

namespace Captured

theorem layout_skipsBlanks : layout.SkipsBlanks := by
  intro field hfield depth draft
  simp only [layout, List.mem_cons, List.not_mem_nil, or_false] at hfield
  rw [hfield]
  exact SkipsBlanks.field (Json.sequence_skipsBlanks _ _) draft

theorem layout_settles (depth : Nat) : layout.Settles (depth + 2) := by
  intro field hfield draft cs value
  simp only [layout, List.mem_cons, List.not_mem_nil, or_false] at hfield
  rw [hfield]
  exact (SavedObject.settled_readList value depth).field draft

/-- The text of a value is read as captured objects, or is refused. -/
theorem settled {cs : List Char} (value : ValueText cs) (depth : Nat) : Settled (layout.read (depth + 3)) cs :=
  Json.Layout.settled_record layout_skipsBlanks (layout_settles depth) value

theorem begins_toJson (o : SavedObject) : Json.Begins o.toJson.write := ⟨_, _, rfl, by decide, by decide⟩

/-- **Captured objects are read back from what was written for them**, in order. -/
theorem reads_toJson (c : Captured) (depth : Nat) : Reads (layout.read (depth + 3)) c.toJson.write c := by
  have spelled := Json.objectText_write [("Resources", .array (c.objects.map SavedObject.toJson))]
  have objects : Reads (SavedObject.readList (depth + 2)) (Json.array (c.objects.map SavedObject.toJson)).write
      c.objects := by
    refine Json.reads_sequence (Json.arrayText_write _) ?_ ?_
    · intro item hitem
      simp only [List.mem_map, exists_exists_and_eq_and] at hitem
      obtain ⟨o, -, rfl⟩ := hitem
      exact begins_toJson o
    · rw [List.map_map, List.forall₂_map_left_iff, List.forall₂_same]
      exact fun o _ => o.reads_toJson depth
  have gathers : layout.Gathers (depth + 2) layout.blank
      [("Resources", (Json.array (c.objects.map SavedObject.toJson)).write)] ⟨some c.objects⟩ :=
    .cons (Json.Layout.takes_of rfl rfl objects) (.nil _)
  exact gathers.reads layout_skipsBlanks spelled rfl

theorem reads_optional (c : Captured) (depth : Nat) :
    Reads (Json.optional (layout.read (depth + 3))) c.toJson.write (some c) :=
  (c.reads_toJson depth).optional (by decide) (by decide)

end Captured

namespace LifecycleEvent

theorem layout_skipsBlanks : layout.SkipsBlanks := by
  intro field hfield depth draft
  simp only [layout, List.mem_cons, List.not_mem_nil, or_false] at hfield
  rcases hfield with rfl | rfl | rfl | rfl | rfl | rfl
  · exact Json.text_skipsBlanks.field draft
  · exact Json.freeObject_skipsBlanks.field draft
  · exact Json.optional_skipsBlanks.field draft
  · exact Json.optional_skipsBlanks.field draft
  · exact Json.optional_skipsBlanks.field draft
  · exact Json.optional_skipsBlanks.field draft

theorem layout_settles (depth : Nat) : layout.Settles (depth + 3) := by
  intro field hfield draft cs value
  simp only [layout, List.mem_cons, List.not_mem_nil, or_false] at hfield
  rcases hfield with rfl | rfl | rfl | rfl | rfl | rfl
  · exact (Json.settled_text value).field draft
  · exact (Json.settled_freeObject value).field draft
  · exact (Json.settled_optional (Json.settled_text value) value).field draft
  · exact (Json.settled_optional (Json.settled_text value) value).field draft
  · exact (Json.settled_optional (Json.settled_text value) value).field draft
  · exact (Json.settled_optional (Captured.settled value depth) value).field draft

def Draft.withData (data : Option Captured) (d : Draft) : Draft := { d with data := some data }

theorem commutes_withData (data : Option Captured) {field : Json.Field Draft} (hfield : field ∈ layout.fields)
    (other : field.name ≠ "Data") : Json.Layout.Commutes (Draft.withData data) field := by
  simp only [layout, List.mem_cons, List.not_mem_nil, or_false] at hfield
  rcases hfield with rfl | rfl | rfl | rfl | rfl | rfl
  · exact Json.Layout.commutes_of (fun _ => rfl) fun _ _ => rfl
  · exact Json.Layout.commutes_of (fun _ => rfl) fun _ _ => rfl
  · exact Json.Layout.commutes_of (fun _ => rfl) fun _ _ => rfl
  · exact Json.Layout.commutes_of (fun _ => rfl) fun _ _ => rfl
  · exact Json.Layout.commutes_of (fun _ => rfl) fun _ _ => rfl
  · exact absurd rfl other

/-- Only the kind of an event must be there; what else is missing has its default. -/
theorem finish_eq_ok_iff {d : Draft} {e : LifecycleEvent} : d.finish = .ok e ↔ d.requestType = some e.requestType ∧
    e.properties = d.properties.getD [] ∧ e.physicalId = d.physicalId.getD none ∧
      e.requestId = d.requestId.getD none ∧ e.logicalId = d.logicalId.getD none ∧ e.data = d.data.getD none := by
  obtain ⟨requestType, properties, physicalId, requestId, logicalId, data⟩ := d
  obtain ⟨s, _, _, _, _, _⟩ := e
  cases requestType with
  | none =>
    constructor
    · intro finish
      cases finish
    · rintro ⟨held, -⟩
      cases held
  | some t =>
    constructor
    · intro finish
      cases finish
      exact ⟨rfl, rfl, rfl, rfl, rfl, rfl⟩
    · dsimp only
      rintro ⟨⟨⟩, rfl, rfl, rfl, rfl, rfl⟩
      rfl

theorem finish_withData {d : Draft} {e : LifecycleEvent} (finish : d.finish = .ok e) (data : Option Captured) :
    (d.withData data).finish = .ok { e with data } := by
  obtain ⟨requestType, properties, physicalId, requestId, logicalId, -⟩ := finish_eq_ok_iff.1 finish
  exact finish_eq_ok_iff.2 ⟨requestType, properties, physicalId, requestId, logicalId, rfl⟩

theorem keeps_data {field : Json.Field Draft} (hfield : field ∈ layout.fields) (other : field.name ≠ "Data") :
    Json.Layout.Keeps (·.data) field := by
  simp only [layout, List.mem_cons, List.not_mem_nil, or_false] at hfield
  rcases hfield with rfl | rfl | rfl | rfl | rfl | rfl
  · exact Json.Layout.keeps_of fun _ _ => rfl
  · exact Json.Layout.keeps_of fun _ _ => rfl
  · exact Json.Layout.keeps_of fun _ _ => rfl
  · exact Json.Layout.keeps_of fun _ _ => rfl
  · exact Json.Layout.keeps_of fun _ _ => rfl
  · exact absurd rfl other

/-- What was captured, as the data of an event. -/
theorem takes_data {d : Draft} (empty : d.data = none) (c : Captured) (depth : Nat) :
    layout.Takes (depth + 3) d ("Data", c.toJson.write) (d.withData (some c)) :=
  Json.Layout.takes_of rfl empty (c.reads_optional depth)

/-- A text with these data, anywhere among the members of what without them is a text of the event. -/
inductive WithData (e : LifecycleEvent) (data : List Char) : String → Prop
  | among {before after : List (String × List Char)} {plain full b b' f f' : List Char}
      (values : ∀ member ∈ before ++ after, ValueText member.2 ∧ member.1 ≠ "Data")
      (spelled : ObjectText (before ++ after) plain) (left : Blank b)
      (decodes : ofText (String.ofList (b ++ (plain ++ b'))) = .ok e)
      (full_spelled : ObjectText (before ++ ("Data", data) :: after) full) (full_left : Blank f)
        (full_right : Blank f') :
      WithData e data (String.ofList (f ++ (full ++ f')))

/-- **The data are a member among others.** What a create captured becomes the data of the event whose text it is put
into, and nothing else changes. -/
theorem WithData.ofText {e : LifecycleEvent} {c : Captured} {source : String} (h : e.WithData c.toJson.write source) :
    ofText source = .ok { e with data := some c } := by
  obtain ⟨values, spelled, left, decodes, full_spelled, full_left, full_right⟩ := h
  rename_i before after plain full b b' f f'
  have settled : ∀ member ∈ before ++ after, layout.SettledMember (Json.maxDepth - 1) member :=
    fun member hm => (layout_settles _).member (values member hm).1
  have other : ∀ members, members ⊆ before ++ after → ∀ member ∈ members, ∀ field ∈ layout.fields,
      field.name = member.1 → field.name ≠ "Data" := by
    intro members hsub member hm field _ hname
    rw [hname]
    exact (values member (hsub hm)).2
  -- what the event without the data was gathered from, up to where the data come in
  obtain ⟨d, gathers, finish⟩ :=
    Json.Layout.gathers_of_ofText layout_skipsBlanks spelled settled left (Json.mapError_eq_ok_iff.1 decodes)
  obtain ⟨mid, hbefore, hafter⟩ := Json.Layout.gathers_append_iff.1 gathers
  have empty : mid.data = none := hbefore.keeps fun member hm field hfield hname =>
    keeps_data hfield (other before (List.subset_append_left _ _) member hm field hfield hname)
  -- the members after them know nothing of the data
  have hafter' : layout.Gathers (Json.maxDepth - 1) (mid.withData (some c)) after (d.withData (some c)) :=
    hafter.commutes fun member hm field hfield hname =>
      commutes_withData (some c) hfield (other after (List.subset_append_right _ _) member hm field hfield hname)
  have full_gathers := hbefore.append (.cons (takes_data empty c 123) hafter')
  exact Json.mapError_eq_ok_iff.2 (full_gathers.ofText layout_skipsBlanks full_spelled full_left full_right
    (finish_withData finish (some c)))

end LifecycleEvent

/-- The data of a response are a text of what was captured. -/
theorem LifecycleResponse.toList_data {r : LifecycleResponse} {data : String}
    (h : r.toText = "\x7b\"Data\":" ++ data ++ "\x7d") : data.toList = r.data.toJson.write := by
  have written : r.toText.toList = "\x7b\"Data\":".toList ++ r.data.toJson.write ++ ['}'] := by
    unfold toText Json.render toJson
    rw [String.toList_ofList]
    rfl
  rw [h, String.toList_append, String.toList_append] at written
  exact List.append_cancel_left (List.append_cancel_right written)

end SearchDomain
