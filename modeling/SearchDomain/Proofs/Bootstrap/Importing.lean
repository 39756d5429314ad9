import SearchDomain.Bootstrap
import SearchDomain.Proofs.Lifecycle
import SearchDomain.Rehearsal
/-!
# Importing — the reply to an import is read exactly

What the members of a reply say is told apart from the reader: whether the import succeeded, if that is said, and which
objects it made, in order (`ImportReply.Tells`). The reply is decoded to what its members say, if they say anything, and
is refused otherwise (`ImportReply.ofText_iff`); so an import answered with a success has one of three outcomes, and
none of them drops or adds an object (`importObjects_exactly`).
-/
namespace SearchDomain.Bootstrap

open DomainApi (Response)
open Json (ArrayText Blank ObjectText Reads ValueText)
open Json.Layout (Due Gathers Held Keeps mem_of_filter)

variable {members : List (String × List Char)} {cs b b' : List Char} {reply : ImportReply}

namespace ImportReply

/-! ## Words -/

/-- How a flag that may be null is spelled. -/
def flagText : Option Bool → List Char
  | none => ['n', 'u', 'l', 'l']
  | some true => ['t', 'r', 'u', 'e']
  | some false => ['f', 'a', 'l', 's', 'e']

theorem reads_flagText : ∀ flag : Option Bool, Reads (Json.optional Json.flag) (flagText flag) flag
  | none | some true | some false => fun _ _ => rfl

theorem reads_flag_iff (value : ValueText cs) {flag : Option Bool} :
    Reads (Json.optional Json.flag) cs flag ↔ cs = flagText flag := by
  refine ⟨fun reads => ?_, fun h => h ▸ reads_flagText flag⟩
  rcases value.word_or_head with rfl | rfl | rfl | ⟨c, tail, rfl, blank, null, true, false⟩
  · rw [reads.unique (reads_flagText none)]
    rfl
  · rw [reads.unique (reads_flagText (some Bool.true))]
    rfl
  · rw [reads.unique (reads_flagText (some Bool.false))]
    rfl
  · obtain ⟨fault, refused⟩ := Json.refuses_flag blank true false [] Json.delimited_nil
    obtain ⟨_, taken, -⟩ := Json.map_eq_ok ((Json.optional_some blank null _).symm.trans (reads [] Json.delimited_nil))
    cases refused.symm.trans taken

/-! ## The layout of a reply -/

theorem layout_skipsBlanks : layout.SkipsBlanks := by
  intro field hfield depth draft
  simp only [layout, List.mem_cons, List.not_mem_nil, or_false] at hfield
  rcases hfield with rfl | rfl
  · exact Json.optional_skipsBlanks.field draft
  · exact Json.SkipsBlanks.field (Json.sequence_skipsBlanks _ _) draft

theorem layout_settles (depth : Nat) : layout.Settles (depth + 2) := by
  intro field hfield draft cs value
  simp only [layout, List.mem_cons, List.not_mem_nil, or_false] at hfield
  rcases hfield with rfl | rfl
  · exact (Json.settled_optional (Json.settled_flag value) value).field draft
  · exact (SavedObject.settled_readList value depth).field draft

theorem keeps_success : ∀ field ∈ layout.fields, field.name ≠ "success" → Keeps (·.success) field := by
  intro field hfield other
  simp only [layout, List.mem_cons, List.not_mem_nil, or_false] at hfield
  rcases hfield with rfl | rfl
  · exact absurd rfl other
  · exact Json.Layout.keeps_of fun _ _ => rfl

theorem keeps_results : ∀ field ∈ layout.fields, field.name ≠ "successResults" → Keeps (·.results) field := by
  intro field hfield other
  simp only [layout, List.mem_cons, List.not_mem_nil, or_false] at hfield
  rcases hfield with rfl | rfl
  · exact Json.Layout.keeps_of fun _ _ => rfl
  · exact absurd rfl other

theorem keeps_filled : ∀ f ∈ layout.fields, ∀ g ∈ layout.fields, f.name ≠ g.name → Keeps f.filled g := by
  have filled_of {β : Type} {part : Draft → Option β} {g : Json.Field Draft} (keeps : Keeps part g) :
      Keeps (fun draft => (part draft).isSome) g := fun depth draft draft' cs rest ok =>
    congrArg Option.isSome (keeps depth draft draft' cs rest ok)
  intro f hf g hg other
  simp only [layout, List.mem_cons, List.not_mem_nil, or_false] at hf
  rcases hf with rfl | rfl
  · exact filled_of (keeps_success g hg (Ne.symm other))
  · exact filled_of (keeps_results g hg (Ne.symm other))

/-! ## What the members say -/

/-- The members of an object say this of an import. Whether it succeeded is said at most once, as a flag or null. The
objects that it made are listed at most once, each by a document of it; none are if the list is missing. -/
structure Tells (members : List (String × List Char)) (reply : ImportReply) : Prop where
  success : members.filter (fun m => m.1 = "success") = [] ∧ reply.success = none ∨
    members.filter (fun m => m.1 = "success") = [("success", flagText reply.success)]
  results : members.filter (fun m => m.1 = "successResults") = [] ∧ reply.results = [] ∨
    ∃ list items, members.filter (fun m => m.1 = "successResults") = [("successResults", list)] ∧
      ArrayText items list ∧ List.Forall₂ (fun item (o : SavedObject) => o.Document item) items reply.results

/-- What the members say is what they say of the two fields. -/
theorem tells_iff_held (values : ∀ member ∈ members, ValueText member.2) (depth : Nat) :
    Tells members reply ↔ ∃ success results, Held members "success" (Json.optional Json.flag) success ∧
      Held members "successResults" (SavedObject.readList (depth + 2)) results ∧
      reply = { success := success.getD none, results := results.getD [] } := by
  constructor
  · rintro ⟨success, results⟩
    obtain ⟨held, hsuccess, hs⟩ : ∃ held, Held members "success" (Json.optional Json.flag) held ∧
        reply.success = held.getD none := by
      rcases success with ⟨missing, hs⟩ | occurs
      · exact ⟨none, missing, hs⟩
      · exact ⟨some reply.success, ⟨_, occurs, reads_flagText _⟩, rfl⟩
    obtain ⟨held', hresults, hr⟩ : ∃ held, Held members "successResults" (SavedObject.readList (depth + 2)) held ∧
        reply.results = held.getD [] := by
      rcases results with ⟨missing, hr⟩ | ⟨list, items, occurs, array, documents⟩
      · exact ⟨none, missing, hr⟩
      · have reads := (SavedObject.reads_readList_iff (values _ (mem_of_filter occurs)) depth).2
          ⟨items, array, documents⟩
        exact ⟨some reply.results, ⟨list, occurs, reads⟩, rfl⟩
    refine ⟨held, held', hsuccess, hresults, ?_⟩
    rw [← hs, ← hr]
  · rintro ⟨success, results, hsuccess, hresults, rfl⟩
    constructor
    · cases success with
      | none => exact .inl ⟨hsuccess, rfl⟩
      | some flag =>
        obtain ⟨value, occurs, reads⟩ := hsuccess
        obtain rfl : value = flagText flag := (reads_flag_iff (values _ (mem_of_filter occurs))).1 reads
        exact .inr occurs
    · cases results with
      | none => exact .inl ⟨hresults, rfl⟩
      | some objects =>
        obtain ⟨list, occurs, reads⟩ := hresults
        obtain ⟨items, array, documents⟩ :=
          (SavedObject.reads_readList_iff (values _ (mem_of_filter occurs)) depth).1 reads
        exact .inr ⟨list, items, occurs, array, documents⟩

/-- **A reply is decoded exactly to what its members say.** -/
theorem ofText_iff (text : ObjectText members cs) (values : ∀ member ∈ members, ValueText member.2) (before : Blank b)
    (after : Blank b') : layout.ofText (String.ofList (b ++ (cs ++ b'))) = .ok reply ↔ Tells members reply := by
  -- what has been gathered is what the members say of the two fields
  have held : ∀ {draft}, Gathers layout (Json.maxDepth - 1) layout.blank members draft →
      Held members "success" (Json.optional Json.flag) draft.success ∧
        Held members "successResults" (SavedObject.readList (Json.maxDepth - 1)) draft.results := fun gathers =>
    ⟨gathers.held (·.success) rfl keeps_success (fun _ _ => rfl) rfl,
      gathers.held (·.results) rfl keeps_results (fun _ _ => rfl) rfl⟩
  rw [tells_iff_held values (Json.maxDepth - 3)]
  constructor
  · intro ok
    obtain ⟨draft, gathers, finish⟩ := Json.Layout.gathers_of_ofText layout_skipsBlanks text
      (fun member hm => (layout_settles _).member (values member hm)) before ok
    cases finish
    exact ⟨draft.success, draft.results, (held gathers).1, (held gathers).2, rfl⟩
  · rintro ⟨success, results, hsuccess, hresults, rfl⟩
    have due : ∀ field ∈ layout.fields, Due (Json.maxDepth - 1) layout.blank members field := by
      intro field hfield
      simp only [layout, List.mem_cons, List.not_mem_nil, or_false] at hfield
      rcases hfield with rfl | rfl
      · exact Held.due hsuccess rfl
      · exact Held.due hresults rfl
    obtain ⟨draft, gathers⟩ := Json.Layout.gathers_of_due values keeps_filled due
    refine gathers.ofText layout_skipsBlanks text before after ?_
    rw [hsuccess.unique (held gathers).1, hresults.unique (held gathers).2]
    rfl

end ImportReply

/-! ## The outcome of an import -/

theorem importObjects_result {σ : Type} {backend : Plan.Backend σ} {bundle : Payload.Bundle} {s s' : σ}
    {response : Response} (answered : backend (.send (importRequest bundle)) s = (.ok response, s'))
    (accepted : response.isSuccess = true) : ((importObjects bundle).run backend s).result =
      match ImportReply.layout.ofText response.body with
      | .ok reply => if reply.success = some false
          then .error (.configuration importContext response.status response.body) else .ok reply.results
      | .error misread => .error (.serialization misread) := by
  unfold importObjects sendChecked Response.ensureSuccess
  show (Plan.run backend (.call (.send (importRequest bundle)) _) s).result = _
  unfold Plan.run
  rw [answered]
  simp only [Plan.bind, accepted, if_true, Plan.ofExcept]
  unfold ImportReply.ofText
  cases ImportReply.layout.ofText response.body with
  | error misread => rfl
  | ok reply =>
    show (Plan.run backend (if reply.success = some false then _ else _) s').result = if _ then _ else _
    split
    · rfl
    · rfl

/-- **The reply to an import is read exactly.** Let an import be answered with a success whose body is an object. The
result is the objects that the members list, in order, unless they say that the import failed: then it is an error with
the status and the whole body. Members that tell no reply at all cannot be read, and no others. -/
theorem importObjects_exactly {σ : Type} (backend : Plan.Backend σ) (bundle : Payload.Bundle) (s : σ) {s' : σ}
    {response : Response} (answered : backend (.send (importRequest bundle)) s = (.ok response, s'))
    (accepted : response.isSuccess = true) (body : response.body = String.ofList (b ++ (cs ++ b')))
    (text : ObjectText members cs) (values : ∀ member ∈ members, ValueText member.2) (before : Blank b)
    (after : Blank b') :
    let result := ((importObjects bundle).run backend s).result
    (∀ objects, result = .ok objects ↔
      ∃ reply, ImportReply.Tells members reply ∧ reply.success ≠ some false ∧ reply.results = objects) ∧
    (result = .error (.configuration importContext response.status response.body) ↔
      ∃ reply, ImportReply.Tells members reply ∧ reply.success = some false) ∧
    ((∃ misread, result = .error (.serialization misread)) ↔ ¬ ∃ reply, ImportReply.Tells members reply) := by
  intro result
  have decoded : ∀ reply, ImportReply.layout.ofText response.body = .ok reply ↔ ImportReply.Tells members reply :=
    fun reply => by rw [body, ImportReply.ofText_iff text values before after]
  have hresult : result = _ := importObjects_result answered accepted
  simp only [← decoded, hresult]
  cases ImportReply.layout.ofText response.body with
  | error misread => simp
  | ok reply =>
    by_cases rejected : reply.success = some false
    · simp [rejected]
    · simp [rejected]

/-- Two objects are listed, each in one of the two ways, before it is said that the import succeeded. -/
theorem importObjects_exactly_listed :
    let first := Json.object [("meta", .null), ("id", .string "a"), ("type", .string "dashboard")]
    let second := Json.array [.string "visualization", .string "\""]
    let reply := Json.object [("successResults", .array [first, second]), ("warnings", .array []),
      ("success", .bool true)]
    let world : Rehearsal.World :=
      { replies := [{ key := "POST " ++ DomainApi.Path.savedObjectsImport, body := "\n" ++ reply.render }] }
    ((importObjects Payload.Dashboard.bundle).run Rehearsal.backend world).result =
      .ok [⟨"dashboard", "a"⟩, ⟨"visualization", "\""⟩] := by
  intro first second reply world
  have dashboard : SavedObject.Document ⟨"dashboard", "a"⟩ first.write := by
    refine .members (Json.objectText_write _) ?_ ⟨_, rfl, Json.literal_writeString _⟩
      ⟨_, rfl, Json.literal_writeString _⟩
    exact List.forall_mem_cons.2 ⟨.null, List.forall_mem_cons.2 ⟨.string (Json.literal_writeString _),
      List.forall_mem_singleton.2 (.string (Json.literal_writeString _))⟩⟩
  have visualization : SavedObject.Document ⟨"visualization", "\""⟩ second.write :=
    .pair (Json.arrayText_write [.string "visualization", .string "\""]) (Json.literal_writeString _)
      (Json.literal_writeString _)
  have list : ValueText (Json.array [first, second]).write := .array (Json.arrayText_write _)
    (List.forall_mem_cons.2 ⟨dashboard.value, List.forall_mem_singleton.2 visualization.value⟩)
  have text : ObjectText _ reply.write := Json.objectText_write _
  have body : "\n" ++ reply.render = String.ofList (['\n'] ++ (reply.write ++ [])) := by
    rw [List.append_nil, String.ofList_append]
    rfl
  have read := importObjects_exactly Rehearsal.backend Payload.Dashboard.bundle world rfl rfl body text
    (List.forall_mem_cons.2 ⟨list, List.forall_mem_cons.2
      ⟨.array (Json.arrayText_write []) (List.forall_mem_nil _), List.forall_mem_singleton.2 .true⟩⟩)
    (by decide) Json.blank_nil
  refine (read.1 _).2 ⟨⟨some true, _⟩, ⟨.inr rfl, .inr ⟨_, _, rfl, Json.arrayText_write _, ?_⟩⟩, by decide, rfl⟩
  exact .cons dashboard (.cons visualization .nil)

end SearchDomain.Bootstrap
