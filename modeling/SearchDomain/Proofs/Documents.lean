import SearchDomain.Proofs.Credential
import SearchDomain.Rotation.Event
/-!
# Documents — what is decoded as a credential or as a rotation event

Both are records of texts. An object is decoded exactly if each of the texts occurs once among its members, with a
string; a list of the strings in order is decoded as well, and so is what is written (`documents`).
-/
namespace SearchDomain

open Json

/-- Documents are decoded as records of these texts, and exactly those: in an object each text is a member that occurs
once, whatever the other members, their order and the blanks are; in a list the texts stand in order. -/
structure DecodesExactly {α : Type} (texts : α → List (String × String)) (ofText : String → Except Error α)
    (toText : α → String) : Prop where
  object : ∀ {members : List (String × List Char)} {cs before after : List Char}, ObjectText members cs →
    (∀ member ∈ members, ValueText member.2) → Blank before → Blank after → ∀ x : α,
      (ofText (String.ofList (before ++ (cs ++ after))) = .ok x ↔
        ∀ t ∈ texts x, ∃ literal, members.filter (fun m => m.1 = t.1) = [(t.1, literal)] ∧ Literal t.2 literal)
  list : ∀ {items : List (List Char)} {cs before after : List Char}, ArrayText items cs → Blank before → Blank after →
    ∀ x : α, List.Forall₂ (fun t literal => Literal t.2 literal) (texts x) items →
      ofText (String.ofList (before ++ (cs ++ after))) = .ok x
  written : ∀ x : α, ofText (toText x) = .ok x

theorem Json.Layout.IsTexts.decodesExactly {δ α : Type} {layout : Layout δ α} {fields : List (TextField δ α)}
    (texts : layout.IsTexts fields) (wrap : Misread → Error) :
    DecodesExactly (fun x => fields.map fun f => (f.name, f.of x)) (fun source => (layout.ofText source).mapError wrap)
      fun x => (Json.object (fields.map fun f => (f.name, .string (f.of x)))).render where
  object spelled values before after x := by
    rw [mapError_eq_ok_iff, texts.ofText_iff spelled values before after x, List.forall_mem_map]
    rfl
  list array before after x spelled := by
    rw [List.forall₂_map_left_iff] at spelled
    exact mapError_eq_ok_iff.2 (texts.ofText_list x array spelled before after)
  written x := mapError_eq_ok_iff.2 (texts.ofText_written x)

namespace Credential

/-- The texts of a credential, by their names. -/
def texts (c : Credential) : List (String × String) := [("username", c.username), ("password", c.password)]

end Credential

namespace RotationEvent

def fields : List (TextField Draft RotationEvent) :=
  [⟨"SecretId", (·.secret), fun s d => { d with secret := some s }, (·.secret)⟩,
    ⟨"ClientRequestToken", (·.token), fun s d => { d with token := some s }, (·.token)⟩,
    ⟨"Step", (·.stepName), fun s d => { d with stepName := some s }, (·.stepName)⟩]

/-- The texts of an event, by their names. -/
def texts (e : RotationEvent) : List (String × String) :=
  [("SecretId", e.secret), ("ClientRequestToken", e.token), ("Step", e.stepName)]

theorem layout_isTexts : layout.IsTexts fields where
  fields_eq := rfl
  names := by decide
  blank := by simp [fields, layout]
  get_set := by simp [fields]
  get_set_other := by simp [fields]
  finish draft e := by
    simp only [layout, Draft.finish, fields, Layout.getDM_bind_eq_ok, List.forall_mem_cons, List.not_mem_nil,
      false_implies, implies_true, and_true]
    constructor
    · rintro ⟨s, hs, t, ht, n, hn, he⟩
      cases he
      exact ⟨hs, ht, hn⟩
    · rintro ⟨hs, ht, hn⟩
      exact ⟨_, hs, _, ht, _, hn, rfl⟩

end RotationEvent

/-- **Credentials and rotation events are decoded exactly from their documents.** -/
theorem documents : (∀ secret, DecodesExactly Credential.texts (Credential.ofSecret secret) Credential.toText) ∧
    DecodesExactly RotationEvent.texts RotationEvent.ofText RotationEvent.toText :=
  ⟨fun _ => Credential.layout_isTexts.decodesExactly _, RotationEvent.layout_isTexts.decodesExactly _⟩

end SearchDomain
