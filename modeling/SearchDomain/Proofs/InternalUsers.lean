import SearchDomain.Proofs.Exchange
import SearchDomain.Rotation
/-!
# InternalUsers — the passwords that a domain keeps

A domain does what a request asks exactly when it answers with a success. Of its users only the passwords matter here,
each under the path at which its user lives. Any backend can be given such a domain (`withUsers`): the answers stay,
and the passwords follow them (`users_run`).
-/
namespace SearchDomain

/-- Passwords by the path of the user. -/
abbrev Passwords := String → Option String

/-- The password in one operation of a patch. -/
def replacedPassword? (operation : Json) : Option String :=
  match operation.member? "op", operation.member? "path", operation.member? "value" with
  | some (.string "replace"), some (.string "/password"), some (.string password) => some password
  | _, _, _ => none

/-- The password that a request gives to the user at its path. A patch replaces it, a put states the whole user. -/
def DomainApi.Request.password? (request : DomainApi.Request) : Option String :=
  match request.method, request.body with
  | .patch, .json (.array operations) => operations.reverse.findSome? replacedPassword?
  | .put, .json document =>
    match document.member? "password" with
    | some (.string password) => some password
    | _ => none
  | _, _ => none

namespace Passwords

/-- The passwords after a request that was accepted. -/
def accept (users : Passwords) (request : DomainApi.Request) : Passwords := fun path =>
  if path = request.path then request.password?.or (users path) else users path

/-- The passwords after an exchange. -/
def after (users : Passwords) : Exchange → Passwords
  | ⟨.send request, .ok response⟩ => if response.isSuccess then users.accept request else users
  | _ => users

/-- An exchange in which a request was accepted. -/
def Accepted (x : Exchange) : Prop := ∃ request response, x = ⟨.send request, .ok response⟩ ∧ response.isSuccess = true

theorem after_of_not_accepted (users : Passwords) {x : Exchange} (h : ¬ Accepted x) : users.after x = users := by
  obtain ⟨c, answer⟩ := x
  cases c with
  | send request =>
    cases answer with
    | error e => rfl
    | ok response =>
      have hr : response.isSuccess ≠ true := fun hs => h ⟨request, response, rfl, hs⟩
      unfold after
      simp only [if_neg hr]
  | _ => rfl

theorem foldl_after_of_not_accepted {xs : List Exchange} (h : ∀ x ∈ xs, ¬ Accepted x) (users : Passwords) :
    xs.foldl after users = users := by
  induction xs with
  | nil => rfl
  | cons x xs ih =>
    rw [List.foldl_cons, after_of_not_accepted users (h x List.mem_cons_self)]
    exact ih fun y hy => h y (List.mem_cons_of_mem _ hy)

end Passwords

/-- The request that a rotation sends to a user asks for just that password. -/
theorem password?_passwordPatch (path password : String) :
    ({ method := .patch, path, body := .json (Rotation.passwordPatch password) } : DomainApi.Request).password? =
      some password := by
  simp [DomainApi.Request.password?, Rotation.passwordPatch, replacedPassword?, Json.ofMembers, Json.member?,
    Table.ofList, Table.get?_set]

/-- A backend beside a domain with users. -/
def withUsers {σ : Type} (backend : Plan.Backend σ) : Plan.Backend (σ × Passwords) := fun c (s, users) =>
  let (answer, s) := backend c s
  (answer, s, users.after ⟨c, answer⟩)

theorem users_run {α σ : Type} (backend : Plan.Backend σ) (p : Plan α) (s : σ × Passwords) :
    (p.run (withUsers backend) s).state.2 = (p.exchanges (withUsers backend) s).foldl Passwords.after s.2 := by
  induction p generalizing s with
  | done result => rfl
  | call c next ih => exact ih _ _

end SearchDomain
