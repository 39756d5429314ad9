import SearchDomain.Rehearsal
/-!
# Exchange — the calls of a plan together with their answers

`Yields p xs r` says that the exchanges `xs` and the result `r` are those of `p` for some answers, whoever gives them.
Every run against a backend is such a course of exchanges (`yields_exchanges`), so what all courses of a plan have in
common holds of all its runs.
-/
namespace SearchDomain

/-- A call and its answer. -/
structure Exchange where
  call : Call
  answer : Except Error call.Answer

/-- A call has not failed, and the domain, if it was asked, has answered with a success. -/
def Exchange.smooth : Exchange → Bool
  | ⟨.send _, .ok response⟩ => response.isSuccess
  | ⟨.authenticate _ _, .ok response⟩ => response.isSuccess
  | ⟨_, .ok _⟩ => true
  | ⟨_, .error _⟩ => false

theorem Exchange.not_smooth_error {c : Call} {e : Error} : Exchange.smooth ⟨c, .error e⟩ ≠ true := by
  cases c <;> exact Bool.false_ne_true

namespace Plan

variable {α β ε σ : Type}

/-- The courses that a plan can take: its exchanges in order, and its result. -/
inductive Yields : Plan α → List Exchange → Except Error α → Prop
  | done (result : Except Error α) : Yields (.done result) [] result
  | call {c : Call} {next : Except Error c.Answer → Plan α} (answer : Except Error c.Answer) {xs : List Exchange}
      {result : Except Error α} (rest : Yields (next answer) xs result) :
        Yields (.call c next) (⟨c, answer⟩ :: xs) result

theorem yields_done_iff {r r' : Except Error α} {xs : List Exchange} :
    Yields (.done r) xs r' ↔ xs = [] ∧ r' = r := by
  constructor
  · intro h
    cases h
    exact ⟨rfl, rfl⟩
  · rintro ⟨rfl, rfl⟩
    exact .done r'

theorem yields_pure_iff {x : α} {xs : List Exchange} {r : Except Error α} :
    Yields (pure x) xs r ↔ xs = [] ∧ r = .ok x := yields_done_iff

theorem yields_fail_iff {e : Error} {xs : List Exchange} {r : Except Error α} :
    Yields (fail e) xs r ↔ xs = [] ∧ r = .error e := yields_done_iff

theorem yields_ofExcept_iff {x : Except Error α} {xs : List Exchange} {r : Except Error α} :
    Yields (ofExcept x) xs r ↔ xs = [] ∧ r = x := yields_done_iff

theorem yields_perform_iff {c : Call} {xs : List Exchange} {r : Except Error c.Answer} :
    Yields (perform c) xs r ↔ xs = [⟨c, r⟩] := by
  constructor
  · intro h
    cases h with
    | call answer rest =>
      cases rest
      rfl
  · rintro rfl
    exact .call r (.done r)

/-- **A plan in two parts** fails in the first, or takes a course of the first and then one of the second. -/
theorem yields_bind_iff {p : Plan α} {f : α → Plan β} {xs : List Exchange} {r : Except Error β} :
    Yields (p >>= f) xs r ↔ (∃ e, Yields p xs (.error e) ∧ r = .error e) ∨
      ∃ x ys zs, Yields p ys (.ok x) ∧ Yields (f x) zs r ∧ xs = ys ++ zs := by
  show Yields (p.bind f) xs r ↔ _
  induction p generalizing xs with
  | done result =>
    cases result with
    | error e =>
      simp only [Plan.bind, yields_done_iff, Except.error.injEq, reduceCtorEq, and_false, false_and, exists_false,
        or_false]
      exact ⟨fun h => ⟨e, ⟨h.1, rfl⟩, h.2⟩, fun ⟨e', ⟨hx, he⟩, hr⟩ => ⟨hx, by rw [hr, he]⟩⟩
    | ok x =>
      simp only [Plan.bind, yields_done_iff, reduceCtorEq, and_false, false_and, exists_false, false_or,
        Except.ok.injEq]
      constructor
      · exact fun h => ⟨x, [], xs, ⟨rfl, rfl⟩, h, rfl⟩
      · rintro ⟨x', ys, zs, ⟨rfl, rfl⟩, hf, rfl⟩
        exact hf
  | call c next ih =>
    constructor
    · intro h
      cases h with
      | call answer rest =>
        rcases (ih answer).1 rest with ⟨e, hp, hr⟩ | ⟨x, ys, zs, hp, hf, rfl⟩
        · exact .inl ⟨e, .call answer hp, hr⟩
        · exact .inr ⟨x, ⟨c, answer⟩ :: ys, zs, .call answer hp, hf, rfl⟩
    · rintro (⟨e, hp, hr⟩ | ⟨x, ys, zs, hp, hf, rfl⟩)
      · cases hp with
        | call answer rest => exact .call answer ((ih answer).2 (.inl ⟨e, rest, hr⟩))
      · cases hp with
        | call answer rest => exact .call answer ((ih answer).2 (.inr ⟨x, _, zs, rest, hf, rfl⟩))

/-- A plan that begins with a call goes on with the answer. -/
theorem yields_perform_bind_iff {c : Call} {f : c.Answer → Plan β} {xs : List Exchange} {r : Except Error β} :
    Yields (perform c >>= f) xs r ↔ (∃ e, xs = [⟨c, .error e⟩] ∧ r = .error e) ∨
      ∃ x zs, xs = ⟨c, .ok x⟩ :: zs ∧ Yields (f x) zs r := by
  rw [yields_bind_iff]
  simp only [yields_perform_iff]
  constructor
  · rintro (h | ⟨x, ys, zs, rfl, hf, rfl⟩)
    · exact .inl h
    · exact .inr ⟨x, zs, rfl, hf⟩
  · rintro (h | ⟨x, zs, rfl, hf⟩)
    · exact .inl h
    · exact .inr ⟨x, _, zs, rfl, hf, rfl⟩

/-! ## Errors -/

/-- An error in answer to a call ends the plan, and is its result. -/
def Brittle (p : Plan α) : Prop :=
  ∀ before (c : Call) (e : Error) after r, Yields p (before ++ ⟨c, .error e⟩ :: after) r → after = [] ∧ r = .error e

namespace Brittle

theorem done (result : Except Error α) : Brittle (.done result) := fun before _ _ _ _ h => by
  cases before <;> cases (yields_done_iff.1 h).1

theorem pure (x : α) : Brittle (Pure.pure x) := done (.ok x)

theorem fail (e : Error) : Brittle (fail e : Plan α) := done (.error e)

theorem ofExcept (x : Except Error α) : Brittle (ofExcept x) := done x

theorem perform (c : Call) : Brittle (perform c) := fun before c' e after r h => by
  have h := yields_perform_iff.1 h
  cases before with
  | nil =>
    cases h
    exact ⟨rfl, rfl⟩
  | cons x before => cases before <;> cases (List.cons.inj h).2

theorem bind {p : Plan α} {f : α → Plan β} (first : Brittle p) (rest : ∀ x, Brittle (f x)) : Brittle (p >>= f) := by
  intro before c e after r h
  obtain ⟨e', hp, rfl⟩ | ⟨x, ys, zs, hp, hf, hsplit⟩ := yields_bind_iff.1 h
  · obtain ⟨rfl, he⟩ := first before c e after _ hp
    cases he
    exact ⟨rfl, rfl⟩
  obtain ⟨ws, rfl, hws⟩ | ⟨ws, rfl, rfl⟩ := List.append_eq_append_iff.1 hsplit
  · cases ws with
    | nil => exact rest x [] c e after r (hws ▸ hf)
    | cons y ws =>
      -- the error would be an answer in the first part, which has succeeded
      obtain ⟨rfl, -⟩ := List.cons.inj hws
      cases (first before c e ws _ hp).2
  · exact rest x ws c e after r hf

end Brittle

/-! ## Runs -/

deriving instance DecidableEq for Except

/-- The exchanges of a run. -/
def exchanges (backend : Backend σ) : Plan α → σ → List Exchange
  | .done _, _ => []
  | .call c next, s => ⟨c, (backend c s).1⟩ :: (next (backend c s).1).exchanges backend (backend c s).2

/-- The calls of a run, each with the state that it meets. -/
def moments (backend : Backend σ) : Plan α → σ → List (σ × Call)
  | .done _, _ => []
  | .call c next, s => (s, c) :: (next (backend c s).1).moments backend (backend c s).2

theorem calls_exchanges (backend : Backend σ) (p : Plan α) (s : σ) :
    (p.run backend s).calls = (p.exchanges backend s).map (·.call) := by
  induction p generalizing s with
  | done result => rfl
  | call c next ih => exact congrArg (c :: ·) (ih _ _)

/-- **A run is a course of its plan.** -/
theorem yields_exchanges (backend : Backend σ) (p : Plan α) (s : σ) :
    Yields p (p.exchanges backend s) (p.run backend s).result := by
  induction p generalizing s with
  | done result => exact .done result
  | call c next ih => exact .call _ (ih _ _)

/-! What all calls of a run have in common carries over from single calls to the run. -/

section
variable {τ : Type} {P : Call → Prop} {backend : Backend σ} {backend' : Backend τ}

/-- What every call of a run keeps, the run keeps. -/
theorem run_keeps {Kept : σ → Prop} (step : ∀ c s, P c → Kept s → Kept (backend c s).2) (p : Plan α) {s : σ}
    (calls : ∀ c ∈ (p.run backend s).calls, P c) (initial : Kept s) : Kept (p.run backend s).state := by
  induction p generalizing s with
  | done result => exact initial
  | call c next ih =>
    exact ih _ (fun d hd => calls d (List.mem_cons_of_mem _ hd)) (step c s (calls c List.mem_cons_self) initial)

/-- **Backends that give the same answers to every call of a run** take the plan through the same run. -/
theorem run_agrees {R : σ → τ → Prop}
    (step : ∀ c s t, P c → R s t → (backend c s).1 = (backend' c t).1 ∧ R (backend c s).2 (backend' c t).2) (p : Plan α)
    {s : σ} {t : τ} (calls : ∀ c ∈ (p.run backend s).calls, P c) (states : R s t) :
    (p.run backend s).calls = (p.run backend' t).calls ∧ (p.run backend s).result = (p.run backend' t).result ∧
      R (p.run backend s).state (p.run backend' t).state := by
  induction p generalizing s t with
  | done result => exact ⟨rfl, rfl, states⟩
  | call c next ih =>
    obtain ⟨answer, states'⟩ := step c s t (calls c List.mem_cons_self) states
    obtain ⟨calls', result, states''⟩ :=
      ih (backend c s).1 (fun d hd => calls d (List.mem_cons_of_mem _ hd)) states'
    -- the other run goes on with the same answer
    rw [answer] at calls' result states''
    refine ⟨?_, ?_, ?_⟩
    · show c :: _ = c :: _
      rw [answer, calls']
    · show ((next (backend c s).1).run backend _).result = _
      rw [answer]
      exact result
    · show R ((next (backend c s).1).run backend _).state _
      rw [answer]
      exact states''

end

/-- The state after events that are handled one after the other. -/
def stateAfter (backend : Backend σ) (handle : ε → Plan α) : List ε → σ → σ
  | [], s => s
  | event :: events, s => stateAfter backend handle events ((handle event).run backend s).state

theorem stateAfter_append (backend : Backend σ) (handle : ε → Plan α) (before after : List ε) (s : σ) :
    stateAfter backend handle (before ++ after) s =
      stateAfter backend handle after (stateAfter backend handle before s) := by
  induction before generalizing s with
  | nil => rfl
  | cons event before ih => exact ih _

/-- What every event of a sequence keeps, the sequence keeps. -/
theorem stateAfter_invariant {backend : Backend σ} {handle : ε → Plan α} (Kept : σ → Prop) :
    ∀ (events : List ε) {s : σ}, (∀ event ∈ events, ∀ s, Kept s → Kept ((handle event).run backend s).state) →
      Kept s → Kept (stateAfter backend handle events s)
  | [], _, _, initial => initial
  | event :: events, s, step, initial =>
    stateAfter_invariant Kept events (fun later h => step later (List.mem_cons_of_mem event h))
      (step event List.mem_cons_self s initial)

end Plan
end SearchDomain
