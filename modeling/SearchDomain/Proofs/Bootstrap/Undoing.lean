import SearchDomain.Proofs.Bootstrap.FixedSecrets
import SearchDomain.Proofs.Bootstrap.Importing
/-!
# Undoing — a delete takes away what a create has made

What a create must not lose is what its import reports: it goes from the reply through the text of the response into
the text of the delete (`ImportReply.results_of_reports`, `LifecycleEvent.WithData.ofText`). The rest is known without
it, as long as the users keep their names. So a delete that nothing goes wrong for deletes the very paths that the
create has put, and the saved objects that the domain has reported (`delete_undoes_create`).
-/
namespace SearchDomain.Bootstrap

open Json (ArrayText Blank ObjectText Reads Settled ValueText)
open Plan

/-! ## What an import reports -/

namespace ImportReply

/-- A text of a reply that reports these objects: it lists a text of each, in order, or it lists none. -/
inductive Reports : List SavedObject → String → Prop
  | listed {before after : List (String × List Char)} {items : List (List Char)} {objects : List SavedObject}
      {list cs b b' : List Char} (others : ∀ member ∈ before ++ after, ValueText member.2 ∧ member.1 ≠ "successResults")
      (text : ObjectText (before ++ ("successResults", list) :: after) cs) (array : ArrayText items list)
      (spelled : List.Forall₂ (fun item (o : SavedObject) => o.Spelled item) items objects) (left : Blank b)
      (right : Blank b') : Reports objects (String.ofList (b ++ (cs ++ b')))
  | unlisted {members : List (String × List Char)} {cs b b' : List Char}
      (others : ∀ member ∈ members, ValueText member.2 ∧ member.1 ≠ "successResults") (text : ObjectText members cs)
      (left : Blank b) (right : Blank b') : Reports [] (String.ofList (b ++ (cs ++ b')))

theorem reports_render (objects : List SavedObject) :
    Reports objects (Json.object [("successResults", .array (objects.map SavedObject.toJson))]).render := by
  have text := Json.objectText_write [("successResults", .array (objects.map SavedObject.toJson))]
  have spelled : List.Forall₂ (fun item (o : SavedObject) => o.Spelled item)
      ((objects.map SavedObject.toJson).map Json.write) objects := by
    rw [List.map_map, List.forall₂_map_left_iff, List.forall₂_same]
    exact fun o _ => o.spelled_toJson
  have others : ∀ member ∈ ([] : List (String × List Char)) ++ [], ValueText member.2 ∧ member.1 ≠ "successResults" :=
    fun _ h => nomatch h
  have reports := Reports.listed others text (Json.arrayText_write _) spelled Json.blank_nil Json.blank_nil
  rwa [List.nil_append, List.append_nil] at reports

/-- **The objects that are read from a reply are those that it reports**, in order. -/
theorem results_of_reports {objects : List SavedObject} {body : String} {reply : ImportReply}
    (reports : Reports objects body) (ok : ofText body = .ok reply) : reply.results = objects := by
  cases reports with
  | @listed before after items objects list cs b b' others text array spelled left right =>
    have listed : ValueText list := .array array (SavedObject.values_of_spelled spelled)
    have values : ∀ member ∈ before ++ ("successResults", list) :: after, ValueText member.2 := fun member hm => by
      rcases List.mem_append.1 hm with hb | hm
      · exact (others member (List.mem_append_left _ hb)).1
      rcases List.mem_cons.1 hm with rfl | ha
      · exact listed
      · exact (others member (List.mem_append_right _ ha)).1
    obtain ⟨draft, gathers, finish⟩ := Json.Layout.gathers_of_ofText layout_skipsBlanks text
      (fun member hm => (layout_settles _).member (values member hm)) left (Json.mapError_eq_ok_iff.1 ok)
    obtain ⟨results, reads, hresults⟩ := gathers.holds (·.results) rfl keeps_results (fun _ _ => rfl)
      (List.mem_append_right _ List.mem_cons_self)
    cases finish
    show draft.results.getD [] = objects
    rw [hresults]
    exact SavedObject.eq_of_reads_readList array spelled reads
  | @unlisted members cs b b' others text left right =>
    obtain ⟨draft, gathers, finish⟩ := Json.Layout.gathers_of_ofText layout_skipsBlanks text
      (fun member hm => (layout_settles _).member (others member hm).1) left (Json.mapError_eq_ok_iff.1 ok)
    have empty : draft.results = none := gathers.keeps fun member hm field hfield hname =>
      keeps_results field hfield (hname ▸ (others member hm).2)
    cases finish
    show draft.results.getD [] = []
    rw [empty]
    rfl

end ImportReply

/-! ## Names and paths -/

/-- The credential has the name that the users of the secrets go by. -/
def Named (names : String → String) (secret : String) (credential : Credential) : Prop :=
  credential.username = names secret

def pathOf (method : DomainApi.Method) : Call → Option String
  | .send request => if request.method = method then some request.path else none
  | _ => none

/-- The paths of all requests with a method, in order. -/
def paths (method : DomainApi.Method) (calls : List Call) : List String := calls.filterMap (pathOf method)

instance (names : String → String) (secret : String) (credential : Credential) :
    Decidable (Named names secret credential) := inferInstanceAs (Decidable (credential.username = names secret))

/-- A call of a delete that nothing goes wrong for: a request that is accepted, or a secret with a credential of its
name. -/
def undisturbed (names : String → String) : Exchange → Bool
  | ⟨.send _, .ok response⟩ => response.isSuccess
  | ⟨.getSecretValue secret _, .ok (some value)⟩ =>
    match Credential.ofSecret secret value.text with
    | .ok credential => decide (Named names secret credential)
    | .error _ => false
  | _ => false

def templatePaths : List String := Payload.IndexTemplate.all.map fun t => DomainApi.Path.indexTemplate t.name

variable {p : Parameters} {event : LifecycleEvent} {admin user : Credential} {objects captured : List SavedObject}
  {names : String → String} {xs : List Exchange} {step : Step} {x : Exchange} {e : Error}

theorem paths_append (method : DomainApi.Method) (calls calls' : List Call) :
    paths method (calls ++ calls') = paths method calls ++ paths method calls' := List.filterMap_append

theorem paths_map {α : Type} {method : DomainApi.Method} {call : α → Call} (path : α → String)
    (h : ∀ a, pathOf method (call a) = some (path a)) (as : List α) : paths method (as.map call) = as.map path := by
  unfold paths
  rw [List.filterMap_map]
  exact List.filterMap_eq_map_iff_forall_eq_some.2 fun a _ => h a

theorem paths_createSteps (p : Parameters) (admin user : Credential) (objects : List SavedObject) :
    paths .put ((createSteps p admin user objects).map Step.call) =
      [DomainApi.Path.pipelineRole, DomainApi.Path.pipelineRoleMapping, DomainApi.Path.internalUser admin.username,
        DomainApi.Path.internalUser user.username] ++ templatePaths := by
  unfold createSteps
  rw [List.map_append, List.map_append, paths_append, paths_append, List.map_map,
    paths_map (fun t : Payload.IndexTemplate => DomainApi.Path.indexTemplate t.name) fun _ => rfl]
  exact List.append_nil _

theorem paths_removeSteps (p : Parameters) (admin user : Credential) (captured : List SavedObject) :
    paths .delete ((removeSteps p admin user captured).map Step.call) =
      [DomainApi.Path.pipelineRoleMapping, DomainApi.Path.pipelineRole, DomainApi.Path.internalUser admin.username,
        DomainApi.Path.internalUser user.username] ++ templatePaths ++
          captured.map fun o => DomainApi.Path.savedObject o.kind o.id := by
  unfold removeSteps
  rw [List.map_append, List.map_append, paths_append, paths_append, List.map_map, List.map_map,
    paths_map (fun t : Payload.IndexTemplate => DomainApi.Path.indexTemplate t.name) fun _ => rfl,
    paths_map (fun o : SavedObject => DomainApi.Path.savedObject o.kind o.id) fun _ => rfl]
  rfl

/-! ## Courses with known names -/

instance (names : String → String) (secret : String) : Nonempty { c // Named names secret c } :=
  ⟨⟨⟨names secret, ""⟩, rfl⟩⟩

theorem holding_of_undisturbed (calm : undisturbed names x = true) : Holding (Named names) x := by
  rintro secret credential ⟨⟩
  case read value decoded =>
    unfold undisturbed at calm
    simp only [decoded] at calm
    exact of_decide_eq_true calm

/-- What nothing goes wrong for does not fail, if it is not an import, whose answer has still to be read. -/
theorem undisturbed_of_fails (names : String → String) (fails : step.Fails x e)
    (other : ∀ bundle objects, step ≠ .importing bundle objects) : undisturbed names x = false := by
  cases fails with
  | erred step e => cases step <;> rfl
  | refused failure => exact failure
  | missing => rfl
  | malformed credential malformed =>
    unfold undisturbed
    simp only [malformed]
  | importRefused objects | importUnreadable objects | importRejected objects => exact absurd rfl (other _ objects)

theorem removeSteps_other (hm : step ∈ removeSteps p admin user captured) (bundle : Payload.Bundle)
    (objects : List SavedObject) : step ≠ .importing bundle objects := by
  simp only [removeSteps, userDeleteSteps, List.mem_append, List.mem_cons, List.not_mem_nil, or_false,
    List.mem_map] at hm
  rcases hm with ((((rfl | rfl) | rfl | rfl) | rfl | rfl) | ⟨t, -, rfl⟩) | ⟨o, -, rfl⟩
  all_goals
    intro h
    cases h

/-- A create that succeeds has taken all steps of a create, for users of the known names. -/
theorem create_passed (creates : Creates event) (named : ∀ x ∈ xs, Holding (Named names) x)
    {response : LifecycleResponse} (h : Yields (handle p event) xs (.ok response)) :
    ∃ admin user objects, admin.username = names p.adminSecret ∧ user.username = names p.userSecret ∧
      List.Forall₂ Step.Passes (createSteps p admin user objects) xs ∧ response = .ofObjects objects := by
  obtain ⟨kind, known⟩ := creates.known
  obtain ⟨⟨⟨admin, hadmin⟩, ⟨user, huser⟩, objects⟩, course⟩ := takes_handle known xs _ h named
  obtain ⟨hsteps, hcompleted⟩ := steps_create (p := p) creates admin user objects
  dsimp only at course
  rw [hsteps, hcompleted] at course
  exact ⟨admin, user, objects, hadmin, huser, course.passed_of_ok⟩

/-- A delete that nothing goes wrong for takes all steps of a delete, for users of the known names. -/
theorem delete_passed (delete : event.kind = .ok .delete) (calm : ∀ x ∈ xs, undisturbed names x = true)
    {r : Except Error LifecycleResponse} (h : Yields (handle p event) xs r) :
    ∃ admin user, admin.username = names p.adminSecret ∧ user.username = names p.userSecret ∧
      xs.map (·.call) = (removeSteps p admin user event.captured).map Step.call ∧ r = .ok {} := by
  obtain ⟨⟨⟨admin, hadmin⟩, ⟨user, huser⟩, objects⟩, course⟩ :=
    takes_handle delete xs _ h fun x hx => holding_of_undisturbed (calm x hx)
  obtain ⟨hsteps, hcompleted⟩ := steps_delete (p := p) delete admin user objects
  dsimp only at course
  rw [hsteps, hcompleted] at course
  refine ⟨admin, user, hadmin, huser, ?_⟩
  cases course with
  | completed passed => exact ⟨map_call_of_passed passed, rfl⟩
  | @failed done rest step taken x e split passed fails =>
    have hm : step ∈ removeSteps p admin user event.captured := split ▸ List.mem_append_right _ List.mem_cons_self
    have disturbed := undisturbed_of_fails names fails (removeSteps_other hm)
    cases disturbed.symm.trans (calm x (List.mem_append_right _ (List.mem_singleton_self x)))

theorem passed_snoc {steps : List Step} (h : List.Forall₂ Step.Passes (steps ++ [step]) xs) :
    ∃ x, xs.getLast? = some x ∧ step.Passes x := by
  induction steps generalizing xs with
  | nil =>
    cases h with
    | cons last none =>
      cases none
      exact ⟨_, rfl, last⟩
  | cons first steps ih =>
    cases h with
    | cons _ rest =>
      obtain ⟨x, hx, passes⟩ := ih rest
      exact ⟨x, by rw [List.getLast?_cons, hx]; rfl, passes⟩

/-! ## Runs -/

/-- The name of the user whose credential a secret holds, if it holds one. -/
def usernameIn (store : SecretStore) (secret : String) : String :=
  match store.getValue secret (.stage .current) with
  | some value =>
    match Credential.ofSecret secret value.text with
    | .ok credential => credential.username
    | .error _ => ""
  | none => ""

/-- Against a store the users have the names that are in the store. -/
theorem holding_usernameIn {σ : Type} {backend : Backend σ} {view : σ → SecretStore} (serves : Serves backend view)
    (p : Parameters) (event : LifecycleEvent) (s : σ) :
    ∀ x ∈ (handle p event).exchanges backend s, Holding (Named (usernameIn (view s))) x := by
  intro x hx secret credential passes
  obtain ⟨value, hvalue, decoded⟩ := holding_run serves p event s x hx secret credential passes
  unfold Named usernameIn
  simp only [hvalue, decoded]

def objectDeletion (o : SavedObject) : Call :=
  .send { method := .delete, path := DomainApi.Path.savedObject o.kind o.id, headers := [("osd-xsrf", "true")] }

/-- **A delete undoes a create.** A create that succeeds has read the reply to its import; put its response's data into
the text of a delete, and the event that is read brings back the objects that the reply reports, in order. A delete that
nothing goes wrong for, with users of the same names, then deletes the paths that the create has put and those of the
reported objects, each once. -/
theorem delete_undoes_create {σ σ' : Type} (backend : Backend σ) (backend' : Backend σ') (creates : Creates event)
    {s : σ} {response : LifecycleResponse} (ok : ((handle p event).run backend s).result = .ok response)
    (named : ∀ x ∈ (handle p event).exchanges backend s, Holding (Named names) x) {data source : String}
    (member : response.toText = "\x7b\"Data\":" ++ data ++ "\x7d") {plain : LifecycleEvent}
    (text : plain.WithData data.toList source) (delete : plain.kind = .ok .delete) :
    ∃ answer reply deletion,
      ((handle p event).exchanges backend s).getLast? =
        some ⟨.send (importRequest Payload.Dashboard.bundle), .ok answer⟩ ∧
      ImportReply.ofText answer.body = .ok reply ∧
      (∀ objects, ImportReply.Reports objects answer.body → reply.results = objects) ∧
      LifecycleEvent.ofText source = .ok deletion ∧ deletion.kind = .ok .delete ∧ deletion.captured = reply.results ∧
      ∀ s' : σ', (∀ x ∈ (handle p deletion).exchanges backend' s', undisturbed names x = true) →
        let outcome := (handle p deletion).run backend' s'
        outcome.result = .ok {} ∧
        (paths .delete outcome.calls).Perm (paths .put ((handle p event).run backend s).calls ++
          reply.results.map fun o => DomainApi.Path.savedObject o.kind o.id) ∧
        reply.results.map objectDeletion <:+ outcome.calls := by
  have yields := yields_exchanges backend (handle p event) s
  rw [ok] at yields
  obtain ⟨admin, user, objects, hadmin, huser, passed, rfl⟩ := create_passed creates named yields
  obtain ⟨x, hlast, imported⟩ := passed_snoc passed
  cases imported with
  | @imported _ answer reply success decoded accepted =>
    rw [LifecycleResponse.toList_data member] at text
    refine ⟨answer, reply, { plain with data := some ⟨reply.results⟩ }, hlast, decoded,
      fun objects reports => ImportReply.results_of_reports reports decoded, text.ofText, delete, rfl,
      fun s' calm => ?_⟩
    have delete' : ({ plain with data := some ⟨reply.results⟩ } : LifecycleEvent).kind = .ok .delete := delete
    obtain ⟨admin', user', hadmin', huser', calls, result⟩ :=
      delete_passed delete' calm (yields_exchanges backend' _ s')
    refine ⟨result, ?_, ?_⟩
    · -- the mapping goes before the role, and apart from that in the order of the create
      rw [calls_exchanges, calls_exchanges, calls, map_call_of_passed passed, paths_removeSteps, paths_createSteps,
        hadmin, huser, hadmin', huser']
      exact List.Perm.swap _ _ _
    · rw [calls_exchanges, calls]
      unfold removeSteps
      rw [List.map_append, List.map_map]
      exact List.suffix_append _ _

def answered : Exchange → Option String
  | ⟨.send _, .ok answer⟩ => some answer.body
  | _ => none

def usersWith (admin user : String) : SecretStore :=
  [("a", ⟨false, [("v", ⟨some (Credential.mk "admin" admin).toText, [Stage.current.label]⟩)]⟩),
    ("b", ⟨false, [("v", ⟨some (Credential.mk "user" user).toText, [Stage.current.label]⟩)]⟩)]

/-- Two objects are reported by an import, and deleted when the passwords have changed. -/
theorem delete_undoes_create_reported :
    let p : Parameters := ⟨"d", "r", "a", "b"⟩
    let objects : List SavedObject := [⟨"dashboard", "a/b"⟩, ⟨"visualization", "\""⟩]
    let source := (Json.object [("RequestType", .string "Delete"), ("Data", Captured.toJson ⟨objects⟩)]).render
    ∃ deletion, LifecycleEvent.ofText source = .ok deletion ∧ objects.map objectDeletion <:+
      ((handle p deletion).run Rehearsal.backend { store := usersWith "x" "y" }).calls := by
  intro p objects source
  let create : LifecycleEvent := { requestType := "Create" }
  let body := (Json.object [("successResults", .array (objects.map SavedObject.toJson))]).render
  let world : Rehearsal.World :=
    { replies := [{ key := "POST " ++ DomainApi.Path.savedObjectsImport, body }], store := usersWith "p" "q" }
  have ok : ((handle p create).run Rehearsal.backend world).result = .ok (.ofObjects objects) := by decide +kernel
  have replied : ((handle p create).exchanges Rehearsal.backend world).getLast?.bind answered = some body := by
    decide +kernel
  have text : ∃ plain : LifecycleEvent,
      plain.WithData (Captured.toJson ⟨objects⟩).write source ∧ plain.kind = .ok .delete := by
    have decoded : (LifecycleEvent.ofText (Json.object [("RequestType", .string "Delete")]).render).map (·.kind) =
        .ok (.ok .delete) := by decide +kernel
    cases plain : LifecycleEvent.ofText (Json.object [("RequestType", .string "Delete")]).render with
    | error e =>
      rw [plain] at decoded
      cases decoded
    | ok e =>
      rw [plain] at decoded
      refine ⟨e, ?_, Except.ok.inj decoded⟩
      rw [Json.render, ← List.append_nil (Json.write _)] at plain
      have spelled := Json.objectText_write [("RequestType", .string "Delete"), ("Data", Captured.toJson ⟨objects⟩)]
      have others : ∀ member ∈ [("RequestType", (Json.string "Delete").write)] ++ [],
          ValueText member.2 ∧ member.1 ≠ "Data" := fun member hm =>
        List.mem_singleton.1 hm ▸ ⟨.string (Json.literal_writeString "Delete"), by decide⟩
      have text := LifecycleEvent.WithData.among others
        (Json.objectText_write [("RequestType", .string "Delete")]) Json.blank_nil plain spelled Json.blank_nil
        Json.blank_nil
      rwa [List.nil_append, List.append_nil] at text
  obtain ⟨plain, text, delete⟩ := text
  have member : (LifecycleResponse.ofObjects objects).toText =
      "\x7b\"Data\":" ++ (Captured.toJson ⟨objects⟩).render ++ "\x7d" := by decide +kernel
  obtain ⟨answer, reply, deletion, last, decodes, results, ofText, delete', captured, undone⟩ :=
    delete_undoes_create Rehearsal.backend Rehearsal.backend (.inl rfl) ok
      (holding_usernameIn serves_rehearsal p create world) member (by rwa [Json.render, String.toList_ofList]) delete
  rw [last] at replied
  have reports : ImportReply.Reports objects answer.body := by
    rw [Option.some.inj replied]
    exact ImportReply.reports_render objects
  rw [results objects reports] at captured undone
  have undone := undone { store := usersWith "x" "y" }
  rw [handle_delete delete', captured] at undone
  refine ⟨deletion, ofText, ?_⟩
  rw [handle_delete delete', captured]
  exact (undone (by decide +kernel)).2.2

end SearchDomain.Bootstrap
