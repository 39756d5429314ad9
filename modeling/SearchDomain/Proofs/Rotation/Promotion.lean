import SearchDomain.Proofs.Rotation.StoreInvariant
/-!
# Promotion — what is known of a version when it is made current

The labels let a version be made current while it is pending, and they do not say whether it has been tried, or has a
value at all (`untested_promotion`). What they do give: a value that was tried with success stays the version's value
until it is made current (`promotion_of_tested`).
-/
namespace SearchDomain.Rotation

open SecretStore Plan

variable {store store' : SecretStore} {secret token exclude : String} {event : RotationEvent}
  {xs ys zs : List Exchange} {r : Except Error Unit}

/-! ## Versions that are not to be rotated any more -/

/-- A version that is current, or is not pending: nothing of it is left to be done. -/
def Past (store : SecretStore) (secret token : String) : Prop :=
  store.Carries secret .pending token → store.Carries secret .current token

theorem not_pending_of_past (past : Past store secret token) : ¬ Pending store secret token :=
  fun pending => pending.notCurrent (past pending.carries)

/-- Whoever is pending is the only one; all others of the secret are past for as long as it stays. -/
theorem past_of_ne (tidy : store.Tidy) {other : String} (pending : Pending store secret token) (hne : token ≠ other) :
    ¬ store.Carries secret .pending other := fun hp => hne (tidy.unique pending.carries hp)

theorem Effect.past (h : Effect exclude event store xs store') (tidy : store.Tidy) (past : Past store secret token) :
    Past store' secret token := by
  cases h with
  | stored step pending absent carries value read =>
    intro hp
    rw [carries_putValue] at hp ⊢
    by_cases hs : event.secret = secret
    · subst hs
      have ht : event.token ≠ token := by
        rintro rfl
        exact not_pending_of_past past pending
      rw [if_pos rfl, if_neg ht] at hp
      exact absurd hp.2 (past_of_ne tidy pending ht)
    · rw [if_neg hs] at hp ⊢
      exact past hp
  | promoted step pending carries alone =>
    obtain ⟨v, hv, -⟩ := pending.carries
    intro hp
    rw [carries_promote hv] at hp ⊢
    by_cases hs : event.secret = secret
    · subst hs
      rw [if_pos rfl] at hp
      exact absurd hp.1 (past_of_ne tidy pending hp.2)
    · rw [if_neg hs] at hp ⊢
      exact past hp
  | _ => exact past

variable {σ : Type} {backend : Backend σ} {view : σ → SecretStore}

theorem past_stateAfter (serves : Serves backend view) (events : List RotationEvent) {s : σ} (tidy : (view s).Tidy)
    (past : Past (view s) secret token) : Past (view (stateAfter backend (handle exclude) events s)) secret token :=
  (kept_stateAfter serves exclude (fun store => store.Tidy ∧ Past store secret token) (fun kept => kept.1.ordered)
    (fun _ _ _ _ _ effect kept => ⟨(effect.tidy_keeps kept.1).1, effect.past kept.1 kept.2⟩) ⟨tidy, past⟩).2

/-! ## The call that makes a version current -/

/-- The one promotion in a course comes right after the description of the secret, which has passed the gate. -/
theorem promote_of_course {target : String} {source : Option String} {answer : Except Error Unit}
    (course : Course exclude event zs r) (hz : zs = xs ++ ⟨.promote secret target source, answer⟩ :: ys) :
    secret = event.secret ∧ target = event.token ∧
      ∃ description, xs = [⟨.describeSecret event.secret, .ok description⟩] ∧
      gate event.secret event.token description = .pending := by
  subst hz
  obtain ⟨-, description, promoting⟩ := course.ending.promoting
  exact ⟨promoting.secret, promoting.target, description, promoting.before, promoting.gate⟩

theorem pending_of_moment (serves : Serves backend view) {target : String} {source : Option String} {s m : σ}
    (h : (m, .promote secret target source) ∈ (handle exclude event).moments backend s) :
    view m = view s ∧ Pending (view m) secret target := by
  obtain ⟨xs, answer, ys, hx, follows⟩ := serves.follows_moment h
  obtain ⟨rfl, rfl, description, rfl, hgate⟩ := promote_of_course (course_of_yields (yields_exchanges backend _ s)) hx
  obtain ⟨described, hn⟩ := follows_describe follows
  have hm : view m = view s := follows_nil_iff.1 hn
  exact ⟨hm, hm ▸ (gate_pending_iff (described _ rfl)).1 hgate⟩

/-- A finish past the gate asks for the promotion of its token. -/
theorem promote_mem_moments {s : σ} {description : Description} (step : event.step = .ok .finish)
    (described : (backend (.describeSecret event.secret) s).1 = .ok description)
    (hgate : gate event.secret event.token description = .pending) (hc : description.current? ≠ some event.token) :
    ((backend (.describeSecret event.secret) s).2, .promote event.secret event.token description.current?) ∈
      (handle exclude event).moments backend s := by
  unfold handle
  rw [step]
  refine .tail _ ?_
  rw [described]
  simp only [Plan.bind, hgate]
  show _ ∈ (finishSecret event.secret event.token description).moments backend _
  unfold finishSecret
  simp only
  rw [if_neg hc]
  exact .head _

/-! ## What has succeeded before -/

/-- Among the exchanges is one in which the domain was asked about the credential in a value, and knew it. -/
def Passed (secret value : String) (xs : List Exchange) : Prop :=
  ∃ credential response, Credential.ofSecret secret value = .ok credential ∧
    ⟨.authenticate credential.username credential.password, .ok response⟩ ∈ xs ∧ response.isSuccess = true

/-- What success says of the token: nothing is left to be done, or it has a value, which has passed if it was to. -/
theorem Effect.past_or_valued (effect : Effect exclude event store xs store') :
    Past store' event.secret event.token ∨ ∃ value, store'.value? event.secret event.token = some value ∧
      (event.step = .ok .test → Passed event.secret value xs) := by
  cases effect with
  | finished current => exact .inl fun _ => current
  | @kept description found current credential step pending value =>
    exact .inr ⟨found.text, value, fun h => by cases step.symm.trans h⟩
  | @stored description found credential password step =>
    exact .inr ⟨({ username := credential.username, password } : Credential).toText, value?_putValue_self,
      fun h => by cases step.symm.trans h⟩
  | @set description found credential response step pending value =>
    exact .inr ⟨found.text, value, fun h => by cases step.symm.trans h⟩
  | @tested description found credential response step pending value read success =>
    exact .inr ⟨found.text, value, fun _ => ⟨credential, response, read, by simp, success⟩⟩
  | promoted step pending =>
    obtain ⟨v, hv, -⟩ := pending.carries
    exact .inl fun _ => current_promote hv

/-- **What was tried with success is what is made current.** Whenever a promotion is asked for, its target is pending
and not current, and of a secret that may be rotated. If any event for it has succeeded before, the target has a value,
the same as right after that event; and if that event was a test, it is the value that passed. -/
theorem promotion_of_tested (serves : Serves backend view) (before : List RotationEvent) {s m : σ} {target : String}
    {source : Option String} (tidy : (view s).Tidy)
    (h : (m, .promote secret target source) ∈
      (handle exclude event).moments backend (stateAfter backend (handle exclude) before s)) :
    Pending (view m) secret target ∧ ∀ (earlier later : List RotationEvent) (success : RotationEvent),
      before = earlier ++ success :: later → success.secret = secret → success.token = target →
      let outcome := (handle exclude success).run backend (stateAfter backend (handle exclude) earlier s)
      outcome.result = .ok () → ∃ value, (view outcome.state).value? secret target = some value ∧
        (view m).value? secret target = some value ∧ (success.step = .ok .test → Passed secret value
          ((handle exclude success).exchanges backend (stateAfter backend (handle exclude) earlier s))) := by
  obtain ⟨hm, pending⟩ := pending_of_moment serves h
  refine ⟨pending, ?_⟩
  rintro earlier later success rfl rfl rfl outcome hok
  obtain ⟨tidy₁, -⟩ := tidy_keeps_stateAfter serves exclude earlier tidy
  have accounted := accounted_run serves exclude success tidy₁.ordered
  obtain ⟨tidy₂, -⟩ := accounted.tidy_keeps tidy₁
  obtain ⟨-, keeps⟩ := tidy_keeps_stateAfter serves exclude later tidy₂
  rw [stateAfter_append] at hm
  rcases accounted with ⟨-, effect⟩ | ⟨⟨e, he⟩, -⟩
  · rcases effect.past_or_valued with past | ⟨value, hv, passed⟩
    · refine absurd pending (not_pending_of_past ?_)
      rw [hm]
      exact past_stateAfter serves later tidy₂ past
    · exact ⟨value, hv, by rw [hm]; exact keeps.values hv, passed⟩
  · cases hok.symm.trans he

theorem promotion_of_tested_password :
    let test : RotationEvent := ⟨"s", "t", "testSecret"⟩
    let world := announced (some (Credential.mk "u" "q").toText)
    let asked := (Rehearsal.backend (.describeSecret "s") (stateAfter Rehearsal.backend (handle "") [test] world)).2
    Pending asked.store "s" "t" ∧
      let tested := (handle "" test).run Rehearsal.backend (stateAfter Rehearsal.backend (handle "") [] world)
      ∃ value, tested.state.store.value? "s" "t" = some value ∧ asked.store.value? "s" "t" = some value ∧
        (test.step = .ok .test → Passed "s" value
          ((handle "" test).exchanges Rehearsal.backend (stateAfter Rehearsal.backend (handle "") [] world))) := by
  intro test world asked
  let description : Description := ⟨true, [("c", [Stage.current.label]), ("t", [Stage.pending.label])]⟩
  have described : (Rehearsal.backend (.describeSecret "s")
      (stateAfter Rehearsal.backend (handle "") [test] world)).1 = .ok description := by decide +kernel
  have h : (asked, .promote "s" "t" description.current?) ∈
      (handle "" ⟨"s", "t", "finishSecret"⟩).moments Rehearsal.backend
        (stateAfter Rehearsal.backend (handle "") [test] world) :=
    promote_mem_moments rfl described (by decide +kernel) (by decide +kernel)
  obtain ⟨pending, valued⟩ := promotion_of_tested serves_rehearsal [test] (by decide +kernel) h
  exact ⟨pending, valued [] [] test rfl rfl rfl (by decide +kernel)⟩

/-- The labels alone do not tell whether a version has been tried: one without a value, of which there has been no
test, is made current. -/
theorem untested_promotion :
    let world := announced none
    world.store.Tidy ∧ (world, .promote "s" "t" (some "c")) ∈
        (handle "" ⟨"s", "t", "finishSecret"⟩).moments Rehearsal.backend
          (stateAfter Rehearsal.backend (handle "") [] world) ∧
      world.store.value? "s" "t" = none :=
  ⟨by decide +kernel, .tail _ (.head _), rfl⟩

end SearchDomain.Rotation
