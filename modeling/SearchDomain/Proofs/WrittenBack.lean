import SearchDomain.Proofs.Json.Canonical
import SearchDomain.Proofs.Lifecycle
/-!
# WrittenBack — an event is read back from what is written for it

Whatever text an event was read from, its properties fit the brackets that may be open inside an event
(`fits_properties`), and so does all that is written for it: what is written is read as the same event
(`LifecycleEvent.written_back`). This needs numbers that are whole; others have a text of their own.
-/
namespace SearchDomain.LifecycleEvent

open Json (Fits Reads)

/-- The brackets that may be open inside an event. -/
def depthInside : Nat := Json.maxDepth - 1

/-- The properties of a draft, if it has them, fit into an event. -/
def Draft.Fits (d : Draft) : Prop :=
  ∀ properties, d.properties = some properties → Json.Fits depthInside (.object properties)

theorem fits_kept : layout.KeptByFields depthInside Draft.Fits := by
  intro field hfield draft fits
  simp only [layout, List.mem_cons, List.not_mem_nil, or_false] at hfield
  rcases hfield with rfl | rfl | rfl | rfl | rfl | rfl
  · exact (Json.yields_trivial _).field fun _ _ => fits
  · refine (Json.yields_freeObject depthInside).field fun read hread properties held => ?_
    cases held
    exact hread
  · exact (Json.yields_trivial _).field fun _ _ => fits
  · exact (Json.yields_trivial _).field fun _ _ => fits
  · exact (Json.yields_trivial _).field fun _ _ => fits
  · exact (Json.yields_trivial _).field fun _ _ => fits

/-- **The properties of an event fit**, whatever text it was read from. -/
theorem fits_properties {source : String} {e : LifecycleEvent} (ok : ofText source = .ok e) :
    Fits depthInside (.object e.properties) := by
  obtain ⟨rest, hread, -⟩ := Json.readAll_eq_ok_iff.1 (Json.mapError_eq_ok_iff.1 ok)
  obtain ⟨d, fits, finish⟩ := fits_kept.yields_read (fun _ h => nomatch h) _ _ _ hread
  rw [(finish_eq_ok_iff.1 finish).2.1]
  cases held : d.properties with
  | none => exact .object List.Pairwise.nil fun _ h => nomatch h
  | some properties => exact fits properties held

/-! ## The members that are written -/

/-- The text of a member that is written. -/
def memberText (m : String × Json) : String × List Char := (m.1, m.2.write)

/-- An option that is present is gathered from its member, and one that is absent leaves the draft as it is. -/
theorem gathers_optionalMember {α : Type} (name : String) {get : Draft → Option (Option α)}
    {set : Option α → Draft → Draft} {read : Nat → Json.Reader (Option α)} {write : α → Json}
    (found : layout.fields.find? (·.name = name) = some (.of name get set true read))
    (reads : ∀ x, Reads (read depthInside) (write x).write (some x))
    {d : Draft} (empty : get d = none) (next : Option α → Draft)
    (absent : next none = d) (present : ∀ x, next (some x) = set (some x) d) (held : Option α) :
    layout.Gathers depthInside d ((optionalMember name write held).map memberText) (next held) := by
  cases held with
  | none =>
    rw [absent]
    exact .nil d
  | some x =>
    rw [present]
    exact .cons (Json.Layout.takes_of found empty (reads x)) (.nil _)

theorem reads_optional_string (s : String) : Reads (Json.optional Json.text) (Json.string s).write (some s) :=
  ((Json.literal_writeString s).reads_text).optional (by decide) (by decide)

/-- The draft that has all that an event has. -/
def toDraft (e : LifecycleEvent) : Draft :=
  ⟨some e.requestType, some e.properties, e.physicalId.map some, e.requestId.map some, e.logicalId.map some,
    e.data.map some⟩

theorem getD_map_some {α : Type} (held : Option α) : (held.map some).getD none = held := by
  cases held <;> rfl

theorem finish_toDraft (e : LifecycleEvent) : e.toDraft.finish = .ok e :=
  finish_eq_ok_iff.2 ⟨rfl, rfl, (getD_map_some _).symm, (getD_map_some _).symm, (getD_map_some _).symm,
    (getD_map_some _).symm⟩

/-- What is written for an event is gathered member by member, in the order of its fields. -/
theorem gathers_written {e : LifecycleEvent} (fits : Fits depthInside (.object e.properties))
    (whole : (Json.object e.properties).isWhole = true) {members : List (String × Json)}
    (he : e.toJson = .object members) : layout.Gathers depthInside layout.blank (members.map memberText) e.toDraft := by
  cases he
  let r := some e.requestType
  let p := some e.properties
  let physicalId := e.physicalId.map some
  let requestId := e.requestId.map some
  let logicalId := e.logicalId.map some
  have required : layout.Gathers depthInside layout.blank
      [("RequestType", (Json.string e.requestType).write), ("ResourceProperties", (Json.object e.properties).write)]
      ⟨r, p, none, none, none, none⟩ :=
    .cons (Json.Layout.takes_of rfl rfl ((Json.literal_writeString e.requestType).reads_text))
      (.cons (Json.Layout.takes_of rfl rfl (fits.reads_freeObject whole)) (.nil _))
  have physical := gathers_optionalMember "PhysicalResourceId" rfl reads_optional_string rfl
    (fun held => ⟨r, p, held.map some, none, none, none⟩) rfl (fun _ => rfl) e.physicalId
  have request := gathers_optionalMember "RequestId" rfl reads_optional_string rfl
    (fun held => ⟨r, p, physicalId, held.map some, none, none⟩) rfl (fun _ => rfl) e.requestId
  have logical := gathers_optionalMember "LogicalResourceId" rfl reads_optional_string rfl
    (fun held => ⟨r, p, physicalId, requestId, held.map some, none⟩) rfl (fun _ => rfl) e.logicalId
  have data := gathers_optionalMember "Data" rfl (fun c => Captured.reads_optional c 123) rfl
    (fun held => ⟨r, p, physicalId, requestId, logicalId, held.map some⟩) rfl (fun _ => rfl) e.data
  simp only [List.map_append]
  exact (((required.append physical).append request).append logical).append data

/-- **An event is read back from what is written for it**, whatever text it was read from. Fields in any order, or as a
list, unknown members, options that are null or absent, and keys that occur twice are all written in one way, which
is then written again. -/
theorem written_back {source : String} {e : LifecycleEvent} (ok : ofText source = .ok e)
    (whole : (Json.object e.properties).isWhole = true) :
    ∃ e', ofText e.toText = .ok e' ∧ e' = e ∧ e'.toText = e.toText := by
  obtain ⟨members, he⟩ : ∃ members, e.toJson = .object members := ⟨_, rfl⟩
  have gathers := gathers_written (fits_properties ok) whole he
  have decoded := gathers.ofText layout_skipsBlanks (Json.objectText_write members) Json.blank_nil Json.blank_nil
    (finish_toDraft e)
  rw [List.nil_append, List.append_nil, ← he] at decoded
  exact ⟨e, Json.mapError_eq_ok_iff.2 decoded, rfl, rfl⟩

/-- A list of the fields, in which a key occurs twice, is written as an object without blanks. -/
theorem written_back_list :
    let source := "[\"D\", \x7b\"b\": 1, \"a\": [-2], \"b\": \x7b\x7d\x7d, null, \"r\", null, [[[\"t\", \"i\"]]]]"
    let text := "\x7b\"RequestType\":\"D\",\"ResourceProperties\":\x7b\"a\":[-2],\"b\":\x7b\x7d\x7d," ++
      "\"RequestId\":\"r\",\"Data\":\x7b\"Resources\":[\x7b\"type\":\"t\",\"id\":\"i\"\x7d]\x7d\x7d"
    ∃ e, ofText source = .ok e ∧ (Json.object e.properties).isWhole = true ∧ e.toText = text ∧
      ∃ e', ofText e.toText = .ok e' ∧ e' = e ∧ e'.toText = e.toText := by
  intro source text
  have decoded : (ofText source).map (fun e => ((Json.object e.properties).isWhole, e.toText)) = .ok (true, text) := by
    decide +kernel
  obtain ⟨e, ok, he⟩ := Json.map_eq_ok decoded
  obtain ⟨whole, written⟩ := Prod.mk.inj he
  exact ⟨e, ok, whole, written, written_back ok whole⟩

end SearchDomain.LifecycleEvent
