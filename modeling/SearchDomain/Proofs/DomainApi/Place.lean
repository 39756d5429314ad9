import SearchDomain.Bootstrap
import SearchDomain.Proofs.DomainApi.Addressing
import SearchDomain.Proofs.Http.Origin
import SearchDomain.Rotation
/-!
# Place — where the requests of the services go

Every path of the domain's API leads to a place. Its path and query are in their final form as long as no name is a step
(`Place.isFinal`). The services send requests to places only, and with no header but the one that the dashboards want
(`Rotation.sends_handleText`, `Bootstrap.sends_handleText`).
-/
namespace SearchDomain

namespace DomainApi

open Http.Url (IsFinal IsSettled isFormChar isStill written)
open Text.Percent (component)

/-- A place of the API: what a path leads to. -/
inductive Place
  | pipelineRole
  | pipelineRoleMapping
  | savedObjectsImport
  | authInfo
  | indexTemplate (name : String)
  | named (n : Named)
  deriving DecidableEq, Repr

namespace Place

def path : Place → String
  | pipelineRole => Path.pipelineRole
  | pipelineRoleMapping => Path.pipelineRoleMapping
  | savedObjectsImport => Path.savedObjectsImport
  | authInfo => Path.authInfo
  | indexTemplate name => Path.indexTemplate name
  | named n => n.path

/-- No name is a step. -/
def IsPlain : Place → Prop
  | indexTemplate name => name ≠ "." ∧ name ≠ ".."
  | named n => n.IsPlain
  | _ => True

def segments : Place → List (List Char)
  | pipelineRole => ["_opendistro", "_security", "api", "roles", "pipeline_role"].map String.toList
  | pipelineRoleMapping => ["_opendistro", "_security", "api", "rolesmapping", "pipeline_role"].map String.toList
  | savedObjectsImport => ["_dashboards", "api", "saved_objects", "_import"].map String.toList
  | authInfo => ["_plugins", "_security", "authinfo"].map String.toList
  | indexTemplate name => ["_index_template".toList, (component name).toList]
  | named n => n.segments

def query : Place → Option (List Char)
  | savedObjectsImport => some "overwrite=true".toList
  | _ => none

variable {p : Place}

theorem path_eq (p : Place) : p.path.toList = written p.segments p.query := by
  cases p with
  | pipelineRole => decide
  | pipelineRoleMapping => decide
  | savedObjectsImport => decide
  | authInfo => decide
  | indexTemplate name =>
    have front : "_index_template/".toList = "_index_template".toList ++ ['/'] := by decide
    unfold path Path.indexTemplate
    rw [String.toList_append, front]
    simp [written, segments, query, Http.Url.marked, List.intercalate_cons_cons]
  | named n =>
    show n.path.toList = List.intercalate ['/'] n.segments ++ []
    rw [n.path_eq, List.append_nil]

theorem relative (p : Place) : p.path.toList.head? ≠ some '/' := by
  cases p with
  | named n => exact n.relative
  | indexTemplate name =>
    have first : (Place.indexTemplate name).path.toList.head? = some '_' := by
      rw [path_eq]
      rfl
    rw [first]
    decide
  | _ => decide

theorem segments_ne_nil (p : Place) : p.segments ≠ [] := by
  cases p with
  | named n => exact List.append_ne_nil_of_right_ne_nil _ fun h => n.names_ne_nil (List.map_eq_nil_iff.1 h)
  | _ => exact List.cons_ne_nil _ _

/-- The places without a name. -/
def fixed : List Place := [pipelineRole, pipelineRoleMapping, savedObjectsImport, authInfo]

theorem final_of_fixed :
    ∀ p ∈ fixed, ∀ s ∈ p.segments, s.all Text.Percent.isComponentChar = true ∧ isStill s = true := by
  decide

theorem final_of_mem (plain : p.IsPlain) {s : List Char} (hs : s ∈ p.segments) : IsSettled s ∧ isStill s = true := by
  cases p with
  | indexTemplate name =>
    have above : "_index_template".toList.all Text.Percent.isComponentChar = true ∧
        isStill "_index_template".toList = true := by decide
    obtain rfl | hs := List.mem_cons.1 hs
    · exact ⟨List.all_eq_true.1 above.1, above.2⟩
    · obtain rfl := List.mem_singleton.1 hs
      exact ⟨Named.settled_component name, Http.Url.isStill_component_iff.2 plain⟩
  | named n =>
    refine ⟨n.settled_segments s hs, ?_⟩
    obtain hs | hs := List.mem_append.1 hs
    · exact n.still_above s hs
    · obtain ⟨name, hname, rfl⟩ := List.mem_map.1 hs
      exact Http.Url.isStill_component_iff.2 (plain name hname)
  | _ =>
    obtain ⟨settled, still⟩ := final_of_fixed _ (by unfold fixed; simp) s hs
    exact ⟨List.all_eq_true.1 settled, still⟩

theorem isFinal (plain : p.IsPlain) : IsFinal p.segments p.query where
  nonempty := p.segments_ne_nil
  settled := fun _ hs => (final_of_mem plain hs).1
  still := fun _ hs => (final_of_mem plain hs).2
  asked := by
    have form : "overwrite=true".toList.all isFormChar = true := by decide
    intro q hq
    cases p with
    | savedObjectsImport =>
      cases hq
      exact List.all_eq_true.1 form
    | _ => cases hq

end Place

/-- A request to a place, with no header but the one that the dashboards want. -/
def IsService (request : Request) : Prop :=
  (∃ p : Place, request.path = p.path) ∧ ∀ h ∈ request.headers, h = Path.dashboardsHeader

end DomainApi

/-! ## What plans send -/

namespace Plan

variable {α β : Type} {P : DomainApi.Request → Prop}

/-- Every request that a plan sends has a property, whatever the answers. -/
inductive Sends (P : DomainApi.Request → Prop) : Plan α → Prop
  | done (result : Except Error α) : Sends P (.done result)
  | call {c : Call} {next : Except Error c.Answer → Plan α} (sent : ∀ request, c = .send request → P request)
      (rest : ∀ answer, Sends P (next answer)) : Sends P (.call c next)

namespace Sends

theorem ofExcept (x : Except Error α) : Sends P (ofExcept x) := .done x

theorem pure (x : α) : Sends P (Pure.pure x) := .done (.ok x)

theorem fail (e : Error) : Sends P (Plan.fail e : Plan α) := .done (.error e)

theorem send {request : DomainApi.Request} (h : P request) : Sends P (perform (.send request)) :=
  .call (fun _ he => Call.send.inj he ▸ h) fun answer => .done answer

theorem other {c : Call} (h : ∀ request, c ≠ .send request) : Sends P (perform c) :=
  .call (fun request he => absurd he (h request)) fun answer => .done answer

theorem bind {p : Plan α} {f : α → Plan β} (first : Sends P p) (rest : ∀ x, Sends P (f x)) : Sends P (p >>= f) := by
  show Sends P (p.bind f)
  induction first with
  | done result =>
    cases result with
    | ok x => exact rest x
    | error e => exact .done _
  | call sent _ ih => exact .call sent ih

theorem each {f : β → Plan Unit} (h : ∀ x, Sends P (f x)) (xs : List β) : Sends P (Plan.each f xs) := by
  induction xs with
  | nil => exact .done _
  | cons x xs ih => exact bind (h x) fun _ => ih

/-- What holds of the requests of a plan holds of those of its runs. -/
theorem of_mem_calls {σ : Type} {backend : Backend σ} {p : Plan α} {s : σ} {request : DomainApi.Request} (h : Sends P p)
    (called : .send request ∈ (p.run backend s).calls) : P request := by
  induction h generalizing s with
  | done result => cases called
  | call sent _ ih =>
    obtain he | called := List.mem_cons.1 called
    · exact sent request he.symm
    · exact ih _ called

end Sends
end Plan

open DomainApi (IsService Place Request)

namespace Rotation

theorem sends_requireSecret (secret : String) (selector : Selector) :
    Plan.Sends IsService (requireSecret secret selector) := by
  refine .bind (.other nofun) fun found => ?_
  cases found with
  | none => exact .fail _
  | some value => exact .ofExcept _

theorem sends_takeStep (exclude : String) (step : RotationStep) (secret token : String) (description : Description) :
    Plan.Sends IsService (takeStep exclude step secret token description) := by
  cases step with
  | create =>
    refine .bind (sends_requireSecret _ _) fun current => .bind (.other nofun) fun found => ?_
    cases found with
    | none => exact .bind (.other nofun) fun password => .bind (.other nofun) fun _ => .pure _
    | some value => exact .pure _
  | set =>
    exact .bind (sends_requireSecret _ _) fun pending =>
      .bind (.send ⟨⟨.named (.user pending.username), rfl⟩, nofun⟩) fun response => .bind (.ofExcept _) fun _ => .pure _
  | test =>
    exact .bind (sends_requireSecret _ _) fun pending => .bind (.other nofun) fun response =>
      .bind (.ofExcept _) fun _ => .pure _
  | finish =>
    show Plan.Sends IsService (finishSecret secret token description)
    unfold finishSecret
    simp only
    split
    · exact .pure _
    · exact .bind (.other nofun) fun _ => .pure _

/-- **A rotation sends requests to places only.** -/
theorem sends_handleText (exclude source : String) : Plan.Sends IsService (handleText exclude source) := by
  refine .bind (.ofExcept _) fun event => .bind (.ofExcept _) fun step => .bind (.other nofun) fun description => ?_
  split
  · exact .fail _
  · exact .pure _
  · exact sends_takeStep _ _ _ _ _

end Rotation

namespace Bootstrap

theorem sends_sendChecked {context : String} {request : Request} (h : IsService request) :
    Plan.Sends IsService (sendChecked context request) := .bind (.send h) fun _ => .ofExcept _

theorem sends_putJson (context : String) (document : Json) (p : Place) :
    Plan.Sends IsService (putJson context p.path document) :=
  .bind (sends_sendChecked ⟨⟨p, rfl⟩, nofun⟩) fun _ => .pure _

theorem sends_delete (context : String) (p : Place) : Plan.Sends IsService (delete context p.path) :=
  .bind (sends_sendChecked ⟨⟨p, rfl⟩, nofun⟩) fun _ => .pure _

theorem sends_readSecret (secret : String) : Plan.Sends IsService (readSecret secret) := by
  refine .bind (.other nofun) fun found => ?_
  cases found with
  | none => exact .fail _
  | some value => exact .ofExcept _

theorem sends_createUser (user : Payload.InternalUser) (secret : String) :
    Plan.Sends IsService (createUser user secret) :=
  .bind (sends_readSecret _) fun credential => .bind (.ofExcept _) fun document =>
    sends_putJson _ document (.named (.user credential.username))

theorem sends_deleteUser (secret : String) : Plan.Sends IsService (deleteUser secret) :=
  .bind (sends_readSecret _) fun credential => sends_delete _ (.named (.user credential.username))

theorem sends_createTemplate (t : Payload.IndexTemplate) : Plan.Sends IsService (createTemplate t) :=
  sends_putJson _ t.document (.indexTemplate t.name)

theorem sends_deleteTemplate (t : Payload.IndexTemplate) : Plan.Sends IsService (deleteTemplate t) :=
  sends_delete _ (.indexTemplate t.name)

theorem sends_deleteObject (o : SavedObject) : Plan.Sends IsService (deleteObject o) :=
  .bind (sends_sendChecked ⟨⟨.named (.object o.kind o.id), rfl⟩, fun _ hh => List.mem_singleton.1 hh⟩) fun _ => .pure _

theorem sends_importObjects (bundle : Payload.Bundle) : Plan.Sends IsService (importObjects bundle) := by
  refine .bind (sends_sendChecked ⟨⟨.savedObjectsImport, rfl⟩, fun _ hh => List.mem_singleton.1 hh⟩) fun response =>
    .bind (.ofExcept _) fun reply => ?_
  split
  · exact .fail _
  · exact .pure _

theorem sends_create (p : Parameters) : Plan.Sends IsService (create p) := by
  unfold create
  refine .bind (sends_putJson _ Payload.pipelineRole .pipelineRole) fun _ => ?_
  refine .bind (.ofExcept _) fun mapping => ?_
  refine .bind (sends_putJson _ mapping .pipelineRoleMapping) fun _ => .bind (.other nofun) fun _ => ?_
  refine .bind (sends_createUser _ _) fun _ => .bind (sends_createUser _ _) fun _ => ?_
  exact .bind (.each sends_createTemplate _) fun _ => .bind (sends_importObjects _) fun _ => .pure _

theorem sends_remove (p : Parameters) (captured : List SavedObject) : Plan.Sends IsService (remove p captured) := by
  refine .bind (sends_delete _ .pipelineRoleMapping) fun _ => .bind (sends_delete _ .pipelineRole) fun _ => ?_
  exact .bind (.each sends_deleteUser _) fun _ => .bind (.each sends_deleteTemplate _) fun _ =>
    .each sends_deleteObject _

/-- **The bootstrap sends requests to places only.** -/
theorem sends_handleText (p : Parameters) (source : String) : Plan.Sends IsService (handleText p source) := by
  refine .bind (.ofExcept _) fun event => .bind (.ofExcept _) fun kind => ?_
  cases kind with
  | create => exact sends_create p
  | update => exact sends_create p
  | delete => exact .bind (sends_remove p event.captured) fun _ => .pure _

end Bootstrap
end SearchDomain
