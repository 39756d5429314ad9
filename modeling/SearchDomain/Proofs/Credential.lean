import SearchDomain.Credential
import SearchDomain.Proofs.Json.TextRecord
/-!
# Credential — what is stored is what is read

The value of a secret is read back as the credential that it was made from, whatever its name and password are.
-/
namespace SearchDomain.Credential

/-- The fields of a credential, which are all texts. -/
def fields : List (Json.TextField Draft Credential) :=
  [⟨"username", (·.username), fun s d => { d with username := some s }, (·.username)⟩,
    ⟨"password", (·.password), fun s d => { d with password := some s }, (·.password)⟩]

theorem layout_isTexts : layout.IsTexts fields where
  fields_eq := rfl
  names := by decide
  blank := by simp [fields, layout]
  get_set := by simp [fields]
  get_set_other := by simp [fields]
  finish draft c := by
    simp only [layout, Draft.finish, fields, Json.Layout.getDM_bind_eq_ok, List.forall_mem_cons, List.not_mem_nil,
      false_implies, implies_true, and_true]
    constructor
    · rintro ⟨u, hu, p, hp, he⟩
      cases he
      exact ⟨hu, hp⟩
    · rintro ⟨hu, hp⟩
      exact ⟨_, hu, _, hp, rfl⟩

theorem ofText_toText (c : Credential) : layout.ofText c.toText = .ok c := layout_isTexts.ofText_written c

/-- **A credential is read back from the value that was written for it.** -/
theorem ofSecret_toText (secret : String) (c : Credential) : ofSecret secret c.toText = .ok c :=
  Json.mapError_eq_ok_iff.2 (ofText_toText c)

end SearchDomain.Credential
