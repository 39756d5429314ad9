import SearchDomain.Proofs.Bootstrap.Course
import SearchDomain.Proofs.SecretStore.Serving
/-!
# FixedSecrets — a bootstrap reads secrets and leaves them alone

No call of a bootstrap can change a secret store (`state_unchanged`). So against one store every create reads the same
credentials, and takes the same steps however far it gets (`create_course`).
-/
namespace SearchDomain.Bootstrap

open Plan SecretStore

variable {p : Parameters} {event : LifecycleEvent} {store : SecretStore} {secret : String} {admin user : Credential}
  {xs : List Exchange} {steps : List Step}

/-- The credential in the current version of a secret. -/
def HeldIn (store : SecretStore) (secret : String) (credential : Credential) : Prop :=
  ∃ value, store.getValue secret (.stage .current) = some value ∧ Credential.ofSecret secret value.text = .ok credential

theorem HeldIn.unique {c c' : Credential} (h : HeldIn store secret c) (h' : HeldIn store secret c') : c' = c := by
  obtain ⟨value, hv, hc⟩ := h
  obtain ⟨value', hv', hc'⟩ := h'
  cases hv.symm.trans hv'
  cases hc.symm.trans hc'
  rfl

theorem Step.call_quiet (step : Step) : Quiet step.call := by
  cases step <;> exact ⟨(fun _ _ _ _ h => nomatch h), fun _ _ _ h => nomatch h⟩

theorem quiet_of_yields {r : Except Error LifecycleResponse} (h : Yields (handle p event) xs r) :
    ∀ x ∈ xs, Quiet x.call := by
  cases kind : event.kind with
  | error e =>
    rw [handle_unknown kind] at h
    obtain ⟨rfl, -⟩ := yields_done_iff.1 h
    exact fun x hx => nomatch hx
  | ok k =>
    obtain ⟨admin, user, objects, course⟩ := upToFailure_of_yields kind h
    intro x hx
    have hcall := course.calls_prefix.subset (List.mem_map_of_mem (f := (·.call)) hx)
    obtain ⟨step, -, hstep⟩ := List.mem_map.1 hcall
    rw [← hstep]
    exact step.call_quiet

theorem exists_passes (h : List.Forall₂ Step.Passes steps xs) {step : Step} (hm : step ∈ steps) :
    ∃ x ∈ xs, step.Passes x := by
  induction h with
  | nil => cases hm
  | cons first _ ih =>
    rcases List.mem_cons.1 hm with rfl | hm
    · exact ⟨_, List.mem_cons_self, first⟩
    · obtain ⟨x, hx, passes⟩ := ih hm
      exact ⟨x, List.mem_cons_of_mem _ hx, passes⟩

/-! ## Runs -/

variable {σ : Type} {backend : Backend σ} {view : σ → SecretStore}

/-- **No bootstrap changes a secret**, whatever comes of it. -/
theorem state_unchanged (serves : Serves backend view) (p : Parameters) (event : LifecycleEvent) (s : σ) :
    view ((handle p event).run backend s).state = view s :=
  (follows_quiet (serves.follows _ s) (quiet_of_yields (yields_exchanges backend _ s))).1

theorem stateAfter_unchanged (serves : Serves backend view) (p : Parameters) :
    ∀ (events : List LifecycleEvent) (s : σ), view (stateAfter backend (handle p) events s) = view s
  | [], _ => rfl
  | event :: events, s => (stateAfter_unchanged serves p events _).trans (state_unchanged serves p event s)

/-- What a bootstrap reads is what the store holds. -/
theorem holding_run (serves : Serves backend view) (p : Parameters) (event : LifecycleEvent) (s : σ) :
    ∀ x ∈ (handle p event).exchanges backend s, Holding (HeldIn (view s)) x := by
  have replies := (follows_quiet (serves.follows _ s) (quiet_of_yields (yields_exchanges backend (handle p event) s))).2
  rintro x hx secret credential ⟨⟩
  case read value decoded =>
    exact ⟨value, (replies_get (replies _ hx)).2 _ rfl, decoded⟩

/-- **Against one store every create takes the same steps**, as far as it gets. -/
theorem create_course (serves : Serves backend view) {s : σ}
    (creates : Creates event) (admin_held : HeldIn (view s) p.adminSecret admin)
    (user_held : HeldIn (view s) p.userSecret user) :
    ∃ objects, UpToFailure (createSteps p admin user objects) (LifecycleResponse.ofObjects objects)
      ((handle p event).exchanges backend s) ((handle p event).run backend s).result := by
  have := Nonempty.intro (⟨admin, admin_held⟩ : { c // HeldIn (view s) p.adminSecret c })
  have := Nonempty.intro (⟨user, user_held⟩ : { c // HeldIn (view s) p.userSecret c })
  obtain ⟨kind, known⟩ := creates.known
  obtain ⟨⟨⟨admin', hadmin⟩, ⟨user', huser⟩, objects⟩, course⟩ :=
    takes_handle known _ _ (yields_exchanges backend (handle p event) s) (holding_run serves p event s)
  cases admin_held.unique hadmin
  cases user_held.unique huser
  obtain ⟨hsteps, hcompleted⟩ := steps_create (p := p) creates admin user objects
  refine ⟨objects, ?_⟩
  rw [← hsteps, ← hcompleted]
  exact course

/-- A create that succeeds has read a credential in either secret. -/
theorem held_of_ok (serves : Serves backend view) {s : σ}
    (creates : Creates event) {response : LifecycleResponse}
    (ok : ((handle p event).run backend s).result = .ok response) :
    ∃ admin user, HeldIn (view s) p.adminSecret admin ∧ HeldIn (view s) p.userSecret user := by
  obtain ⟨kind, known⟩ := creates.known
  obtain ⟨admin, user, objects, course⟩ := upToFailure_of_yields known (yields_exchanges backend (handle p event) s)
  rw [ok, (steps_create creates _ _ _).1] at course
  have read : ∀ {secret credential}, Step.read secret credential ∈ createSteps p admin user objects →
      HeldIn (view s) secret credential := fun hm => by
    obtain ⟨x, hx, passes⟩ := exists_passes course.passed_of_ok.1 hm
    exact holding_run serves p event s x hx _ _ passes
  exact ⟨admin, user, read (by simp [createSteps, userSteps]), read (by simp [createSteps, userSteps])⟩

end SearchDomain.Bootstrap
