import SearchDomain.Proofs.Bootstrap.FixedSecrets
/-!
# Convergence — a create that was cut short can be made again from scratch

A create only ever sets things, each to what does not depend on what was there before. So what it does to a domain is to
lay one configuration over another (`override`), what a create that is cut short has done is covered by what a whole one
does (`covered_of_upToFailure`), and after any number of attempts the first that succeeds leaves what a single one would
have left (`retries_converge`).
-/
namespace SearchDomain

open DomainApi (Body Request)

/-- What a domain is configured with, as far as creates set it: what was put at each path, the saved objects by
whatever tells them apart, and whether there are internal users. -/
structure Configuration (κ ω : Type) where
  entries : String → Option Body
  objects : κ → Option ω
  internalUsers : Bool

namespace Configuration

variable {κ ω : Type} {c d : Configuration κ ω}

def nothing : Configuration κ ω := ⟨fun _ => none, fun _ => none, false⟩

def override (c d : Configuration κ ω) : Configuration κ ω where
  entries path := (d.entries path).or (c.entries path)
  objects key := (d.objects key).or (c.objects key)
  internalUsers := c.internalUsers || d.internalUsers

theorem override_nothing (c : Configuration κ ω) : c.override nothing = c := by
  simp [override, nothing]

theorem nothing_override (c : Configuration κ ω) : nothing.override c = c := by
  simp [override, nothing]

theorem override_assoc (c d e : Configuration κ ω) : (c.override d).override e = c.override (d.override e) := by
  simp [override, Option.or_assoc, Bool.or_assoc]

theorem override_self (c : Configuration κ ω) : c.override c = c := by
  simp [override]

/-- What is laid over a configuration hides all of it. -/
def Covers (d c : Configuration κ ω) : Prop := c.override d = d

theorem Covers.override {e : Configuration κ ω} (hc : Covers e c) (hd : Covers e d) : Covers e (c.override d) := by
  unfold Covers at *
  rw [override_assoc, hd, hc]

theorem Covers.override_eq (h : Covers d c) (e : Configuration κ ω) : (e.override c).override d = e.override d := by
  rw [override_assoc, h]

-- An import sets what `contents` finds in the bytes of its bundle.
variable (contents : Text.Utf8.Bytes → κ → Option ω)

def accept (c : Configuration κ ω) (request : Request) : Configuration κ ω :=
  match request.method, request.body with
  | .put, body => { c with entries := fun path => if path = request.path then some body else c.entries path }
  | .post, .file _ bundle =>
    if request.path = DomainApi.Path.savedObjectsImport then
      { c with objects := fun key => (contents bundle key).or (c.objects key) }
    else c
  | _, _ => c

def after (c : Configuration κ ω) : Exchange → Configuration κ ω
  | ⟨.send request, .ok response⟩ => if response.isSuccess then c.accept contents request else c
  | ⟨.enableInternalUsers _, .ok ()⟩ => { c with internalUsers := true }
  | _ => c

theorem accept_eq_override (c : Configuration κ ω) (request : Request) :
    c.accept contents request = c.override (nothing.accept contents request) := by
  unfold accept
  split
  · have entries : ∀ path, (if path = request.path then some request.body else c.entries path) =
        (if path = request.path then some request.body else none).or (c.entries path) := fun path => by
      by_cases h : path = request.path <;> simp [h]
    simp [override, nothing, entries]
  · split
    · simp [override, nothing]
    · exact (override_nothing c).symm
  · exact (override_nothing c).symm

end Configuration

/-- A backend beside a domain with a configuration. -/
def withConfiguration {κ ω σ : Type} (contents : Text.Utf8.Bytes → κ → Option ω) (backend : Plan.Backend σ) :
    Plan.Backend (σ × Configuration κ ω) := fun c (s, configuration) =>
  let (answer, s) := backend c s
  (answer, s, configuration.after contents ⟨c, answer⟩)

theorem configuration_run {κ ω α σ : Type} (contents : Text.Utf8.Bytes → κ → Option ω) (backend : Plan.Backend σ)
    (p : Plan α) (s : σ × Configuration κ ω) :
    (p.run (withConfiguration contents backend) s).state.2 =
      (p.exchanges (withConfiguration contents backend) s).foldl (·.after contents) s.2 := by
  induction p generalizing s with
  | done result => rfl
  | call c next ih => exact ih _ _

theorem Serves.withConfiguration {κ ω σ : Type} (contents : Text.Utf8.Bytes → κ → Option ω) {backend : Plan.Backend σ}
    {view : σ → SecretStore} (serves : Serves backend view) :
    Serves (SearchDomain.withConfiguration contents backend) fun s => view s.1 := fun c s => serves c s.1

namespace Bootstrap

open Plan SearchDomain.Configuration

variable {κ ω : Type} (contents : Text.Utf8.Bytes → κ → Option ω)

/-! ## What steps set -/

def Step.change : Step → Configuration κ ω
  | send _ request => nothing.accept contents request
  | enable _ => { nothing with internalUsers := true }
  | read _ _ => nothing
  | importing bundle _ => nothing.accept contents (importRequest bundle)

def changes : List Step → Configuration κ ω
  | [] => nothing
  | step :: steps => (step.change contents).override (changes steps)

variable {α : Type} {steps rest : List Step} {final : α} {xs : List Exchange} {r : Except Error α}
  {c : Configuration κ ω} {step : Step} {x : Exchange} {e : Error}

theorem changes_append (steps rest : List Step) :
    changes contents (steps ++ rest) = (changes contents steps).override (changes contents rest) := by
  induction steps with
  | nil => exact (nothing_override _).symm
  | cons step steps ih => rw [List.cons_append, changes, changes, ih, override_assoc]

theorem covers_prefix (steps rest : List Step) :
    Covers (changes contents (steps ++ rest)) (changes contents steps) := by
  unfold Covers
  rw [changes_append, ← override_assoc, override_self]

theorem after_sent (c : Configuration κ ω) (request : DomainApi.Request) {response : DomainApi.Response}
    (success : response.isSuccess = true) :
    c.after contents ⟨.send request, .ok response⟩ = c.override (nothing.accept contents request) := by
  rw [← accept_eq_override]
  exact if_pos success

theorem after_unsent (c : Configuration κ ω) (request : DomainApi.Request) {response : DomainApi.Response}
    (failure : response.isSuccess = false) : c.after contents ⟨.send request, .ok response⟩ = c := by
  refine if_neg ?_
  rw [failure]
  exact Bool.false_ne_true

theorem after_passes (passes : step.Passes x) : c.after contents x = c.override (step.change contents) := by
  cases passes with
  | sent success => exact after_sent contents c _ success
  | enabled => simp [after, Step.change, override, nothing]
  | read => exact (override_nothing c).symm
  | imported success => exact after_sent contents c _ success

/-- A step that fails sets nothing, or as much as if it had passed: an import may have been made although its answer is
no help. -/
theorem after_fails (fails : step.Fails x e) :
    c.after contents x = c ∨ c.after contents x = c.override (step.change contents) := by
  cases fails with
  | erred step e => cases step <;> exact .inl rfl
  | refused failure => exact .inl (after_unsent contents c _ failure)
  | missing | malformed => exact .inl rfl
  | importRefused objects failure => exact .inl (after_unsent contents c _ failure)
  | importUnreadable objects success => exact .inr (after_sent contents c _ success)
  | importRejected objects success => exact .inr (after_sent contents c _ success)

theorem foldl_after_passed (passed : List.Forall₂ Step.Passes steps xs) (c : Configuration κ ω) :
    xs.foldl (·.after contents) c = c.override (changes contents steps) := by
  induction passed generalizing c with
  | nil => exact (override_nothing c).symm
  | cons first _ ih => rw [List.foldl_cons, ih, after_passes contents first, changes, override_assoc]

/-- **Steps that were cut short have set what all of them hide.** -/
theorem covered_of_upToFailure (course : UpToFailure steps final xs r) (c : Configuration κ ω) :
    ∃ d, Covers (changes contents steps) d ∧ xs.foldl (·.after contents) c = c.override d := by
  cases course with
  | completed passed => exact ⟨_, override_self _, foldl_after_passed contents passed c⟩
  | @failed done rest step taken x e split passed fails =>
    rw [List.foldl_append, foldl_after_passed contents passed, List.foldl_cons, List.foldl_nil, split]
    rcases after_fails contents (c := c.override (changes contents done)) fails with h | h
    · exact ⟨_, covers_prefix contents done _, h⟩
    · -- the failed step has set what it was to set
      refine ⟨changes contents (done ++ [step]), ?_, ?_⟩
      · rw [← List.singleton_append, ← List.append_assoc]
        exact covers_prefix contents _ rest
      · rw [h, override_assoc, changes_append, changes, changes, override_nothing]

/-! ## Runs -/

/-- What a create sets does not depend on what its import reports. -/
theorem changes_createSteps (p : Parameters) (admin user : Credential) (objects : List SavedObject) :
    changes contents (createSteps p admin user objects) = changes contents (createSteps p admin user []) := by
  unfold createSteps
  rw [changes_append, changes_append contents _ [.importing _ []]]
  rfl

def AllSucceed {σ : Type} (backend : Backend σ) (p : Parameters) : List LifecycleEvent → σ → Prop
  | [], _ => True
  | event :: events, s =>
    (∃ response, ((handle p event).run backend s).result = .ok response) ∧
      AllSucceed backend p events ((handle p event).run backend s).state

variable {σ σ' : Type} {backend : Backend σ} {backend' : Backend σ'} {view : σ → SecretStore} {view' : σ' → SecretStore}
  {p : Parameters} {admin user : Credential} {event clean : LifecycleEvent} {attempts repeats : List LifecycleEvent}

/-- A create covers what it has set, however far it has got. -/
theorem covered_run (serves : Serves backend view) (s : σ × Configuration κ ω) (creates : Creates event)
    (admin_held : HeldIn (view s.1) p.adminSecret admin) (user_held : HeldIn (view s.1) p.userSecret user) :
    ∃ d, Covers (changes contents (createSteps p admin user [])) d ∧
      ((handle p event).run (withConfiguration contents backend) s).state.2 = s.2.override d := by
  obtain ⟨objects, course⟩ := create_course (serves.withConfiguration contents) creates admin_held user_held
  obtain ⟨d, covers, hd⟩ := covered_of_upToFailure contents course s.2
  rw [changes_createSteps] at covers
  exact ⟨d, covers, (configuration_run contents backend _ s).trans hd⟩

theorem changes_run (serves : Serves backend view) (s : σ × Configuration κ ω) (creates : Creates event)
    (admin_held : HeldIn (view s.1) p.adminSecret admin) (user_held : HeldIn (view s.1) p.userSecret user)
    {response : LifecycleResponse}
    (ok : ((handle p event).run (withConfiguration contents backend) s).result = .ok response) :
    ((handle p event).run (withConfiguration contents backend) s).state.2 =
      s.2.override (changes contents (createSteps p admin user [])) := by
  obtain ⟨objects, course⟩ := create_course (serves.withConfiguration contents) creates admin_held user_held
  rw [ok] at course
  rw [configuration_run, foldl_after_passed contents course.passed_of_ok.1, changes_createSteps]

theorem covered_stateAfter (serves : Serves backend view) :
    ∀ (events : List LifecycleEvent) (s : σ × Configuration κ ω), (∀ event ∈ events, Creates event) →
      HeldIn (view s.1) p.adminSecret admin → HeldIn (view s.1) p.userSecret user →
        ∃ d, Covers (changes contents (createSteps p admin user [])) d ∧
          (stateAfter (withConfiguration contents backend) (handle p) events s).2 = s.2.override d
  | [], s, _, _, _ => ⟨nothing, nothing_override _, (override_nothing _).symm⟩
  | event :: events, s, creates, admin_held, user_held => by
    obtain ⟨d, hd, hstate⟩ := covered_run contents serves s (creates event List.mem_cons_self) admin_held user_held
    have unchanged := state_unchanged (serves.withConfiguration contents) p event s
    obtain ⟨d', hd', hrest⟩ := covered_stateAfter serves events _ (fun e he => creates e (List.mem_cons_of_mem _ he))
      (unchanged.symm ▸ admin_held) (unchanged.symm ▸ user_held)
    refine ⟨d.override d', hd.override hd', hrest.trans ?_⟩
    rw [hstate, override_assoc]

/-- Creates that succeed change nothing where a create has succeeded. -/
theorem repeats_stateAfter (serves : Serves backend view) :
    ∀ (events : List LifecycleEvent) (s : σ × Configuration κ ω), (∀ event ∈ events, Creates event) →
      HeldIn (view s.1) p.adminSecret admin → HeldIn (view s.1) p.userSecret user →
        s.2.override (changes contents (createSteps p admin user [])) = s.2 →
          AllSucceed (withConfiguration contents backend) p events s →
            (stateAfter (withConfiguration contents backend) (handle p) events s).2 = s.2
  | [], s, _, _, _, _, _ => rfl
  | event :: events, s, creates, admin_held, user_held, settled, ⟨⟨response, ok⟩, rest⟩ => by
    have changed := changes_run contents serves s (creates event List.mem_cons_self) admin_held user_held ok
    have hstate := changed.trans settled
    have unchanged := state_unchanged (serves.withConfiguration contents) p event s
    refine (repeats_stateAfter serves events _ (fun e he => creates e (List.mem_cons_of_mem _ he))
      (unchanged.symm ▸ admin_held) (unchanged.symm ▸ user_held) ?_ rest).trans hstate
    rw [hstate]
    exact settled

/-- **Retrying from scratch converges.** After creates that were cut short anywhere, or not at all, one that succeeds
leaves the configuration that a single create would have left on the domain as it was at first. Any more that succeed
leave it so. -/
theorem retries_converge (serves : Serves backend view) (serves' : Serves backend' view') {s : σ} {s' : σ'}
    (same : view' s' = view s) (c : Configuration κ ω) (creates : ∀ e ∈ attempts ++ event :: repeats, Creates e)
    (succeeds : AllSucceed (withConfiguration contents backend) p (event :: repeats)
      (stateAfter (withConfiguration contents backend) (handle p) attempts (s, c)))
    (clean_creates : Creates clean) {response : LifecycleResponse}
    (clean_ok : ((handle p clean).run (withConfiguration contents backend') (s', c)).result = .ok response) :
    (stateAfter (withConfiguration contents backend) (handle p) (attempts ++ event :: repeats) (s, c)).2 =
      ((handle p clean).run (withConfiguration contents backend') (s', c)).state.2 := by
  obtain ⟨admin, user, admin_held', user_held'⟩ :=
    held_of_ok (serves'.withConfiguration contents) clean_creates clean_ok
  have admin_held : HeldIn (view s) p.adminSecret admin := same ▸ admin_held'
  have user_held : HeldIn (view s) p.userSecret user := same ▸ user_held'
  rw [changes_run contents serves' (s', c) clean_creates admin_held' user_held' clean_ok, stateAfter_append]
  obtain ⟨d, covers, attempted⟩ := covered_stateAfter contents serves attempts (s, c)
    (fun e he => creates e (List.mem_append_left _ he)) admin_held user_held
  have unchanged := stateAfter_unchanged (serves.withConfiguration contents) p attempts (s, c)
  obtain ⟨⟨response', ok⟩, rest⟩ := succeeds
  have event_creates := creates event (List.mem_append_right _ List.mem_cons_self)
  have first := changes_run contents serves _ event_creates (unchanged.symm ▸ admin_held)
    (unchanged.symm ▸ user_held) ok
  rw [attempted, covers.override_eq] at first
  have unchanged' := (state_unchanged (serves.withConfiguration contents) p event _).trans unchanged
  refine (repeats_stateAfter contents serves repeats _
    (fun e he => creates e (List.mem_append_right _ (List.mem_cons_of_mem _ he)))
    (unchanged'.symm ▸ admin_held) (unchanged'.symm ▸ user_held) ?_ rest).trans first
  rw [first, override_assoc, override_self]

/-- Both users have one name, and the domain refuses an index template once. -/
def sharedName : Rehearsal.World where
  replies := [{ key := "PUT _index_template/spark_task_metrics", status := some 503, uses := some 1 }]
  store := [("a", ⟨false, [("v", ⟨some (Credential.mk "u" "p").toText, [Stage.current.label]⟩)]⟩),
    ("b", ⟨false, [("v", ⟨some (Credential.mk "u" "q").toText, [Stage.current.label]⟩)]⟩)]

/-- A create that is cut short, an update, and a create once more. -/
theorem retries_converge_sharedName :
    let p : Parameters := ⟨"d", "r", "a", "b"⟩
    let contents : Text.Utf8.Bytes → Unit → Option Text.Utf8.Bytes := fun bundle _ => some bundle
    let create : LifecycleEvent := { requestType := "Create" }
    let update : LifecycleEvent := { requestType := "Update" }
    (stateAfter (withConfiguration contents Rehearsal.backend) (handle p) ([create] ++ update :: [create])
        (sharedName, nothing)).2 =
      ((handle p create).run (withConfiguration contents Rehearsal.backend)
        ({ sharedName with replies := [] }, nothing)).state.2 := by
  intro p contents create update
  have creates : ∀ e ∈ [create] ++ update :: [create], Creates e := by decide +kernel
  have succeeds : AllSucceed (withConfiguration contents Rehearsal.backend) p [update, create]
      (stateAfter (withConfiguration contents Rehearsal.backend) (handle p) [create] (sharedName, nothing)) :=
    ⟨⟨{}, by decide +kernel⟩, ⟨{}, by decide +kernel⟩, trivial⟩
  have clean : ((handle p create).run (withConfiguration contents Rehearsal.backend)
      ({ sharedName with replies := [] }, nothing)).result = .ok {} := by decide +kernel
  have same : ({ sharedName with replies := [] } : Rehearsal.World).store = sharedName.store := rfl
  exact retries_converge contents serves_rehearsal serves_rehearsal same nothing creates succeeds
    (by decide +kernel) clean

end Bootstrap
end SearchDomain
