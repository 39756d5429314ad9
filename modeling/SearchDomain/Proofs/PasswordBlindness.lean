import SearchDomain.Bootstrap
import SearchDomain.Proofs.SecretStore.Likeness
import SearchDomain.Rehearsal
/-!
# PasswordBlindness — what comes of an event does not depend on passwords

Neither service looks at a password: it takes them from values, and puts them where they belong. So two rehearsals with
one script, in stores that are alike, and with any generated passwords, go the same way (`passwords_do_not_matter`):
the results are the same, with all they say, and the calls are the same but for the passwords in their places.
-/
namespace SearchDomain

open Plan
open DomainApi (Request Response)

/-! ## Single calls -/

theorem alike_get (secret : String) (selector : Selector) :
    Plan.Alike (Option.Rel SecretValue.Alike) (perform (.getSecretValue secret selector))
      (perform (.getSecretValue secret selector)) := by
  refine alike_perform (c := .getSecretValue secret selector) (.refl _) fun answer answer' h => ?_
  cases h with
  | failed _ e => exact .error e
  | looked _ _ alike => exact .ok alike

theorem alike_send {r r' : Request} (calls : Call.Alike (.send r) (.send r')) :
    Plan.Alike (· = ·) (perform (.send r)) (perform (.send r')) := by
  refine alike_perform calls fun answer answer' h => ?_
  cases h with
  | failed _ e => exact .error e
  | sent _ response => exact .ok rfl

theorem alike_authenticate (username p q : String) :
    Plan.Alike (· = ·) (perform (.authenticate username p)) (perform (.authenticate username q)) := by
  refine alike_perform (.probed username p q) fun answer answer' h => ?_
  cases h with
  | failed _ e => exact .error e
  | probed _ _ _ response => exact .ok rfl

theorem alike_enable (domain : String) :
    Plan.Alike (· = ·) (perform (.enableInternalUsers domain)) (perform (.enableInternalUsers domain)) := by
  refine alike_perform (.refl _) fun answer answer' h => ?_
  cases h with
  | failed _ e => exact .error e
  | enabled => exact .ok rfl

theorem alike_describe (secret : String) :
    Plan.Alike (· = ·) (perform (.describeSecret secret)) (perform (.describeSecret secret)) := by
  refine alike_perform (.refl _) fun answer answer' h => ?_
  cases h with
  | failed _ e => exact .error e
  | described _ d => exact .ok rfl

theorem alike_generate (exclude : String) :
    Plan.Alike (fun _ _ => True) (perform (.getRandomPassword exclude)) (perform (.getRandomPassword exclude)) := by
  refine alike_perform (.refl _) fun answer answer' h => ?_
  cases h with
  | failed _ e => exact .error e
  | generated _ p q => exact .ok trivial

theorem alike_put (secret token username p q : String) (stage : Stage) :
    Plan.Alike (· = ·) (perform (.putSecretValue secret token (Credential.mk username p).toText stage))
      (perform (.putSecretValue secret token (Credential.mk username q).toText stage)) := by
  refine alike_perform (.stored secret token username p q stage) fun answer answer' h => ?_
  cases h with
  | failed _ e => exact .error e
  | stored => exact .ok rfl

theorem alike_promote (secret target : String) (source : Option String) :
    Plan.Alike (· = ·) (perform (.promote secret target source)) (perform (.promote secret target source)) := by
  refine alike_perform (.refl _) fun answer answer' h => ?_
  cases h with
  | failed _ e => exact .error e
  | promoted => exact .ok rfl

/-- Credentials of one user. -/
def OneName (c c' : Credential) : Prop := c.username = c'.username

theorem alike_credential {text text' : String} (h : AlikeTexts text text') (secret : String) :
    Plan.Alike OneName (ofExcept (Credential.ofSecret secret text)) (ofExcept (Credential.ofSecret secret text')) := by
  rcases h.ofSecret secret with ⟨e, read, read'⟩ | ⟨username, p, q, read, read'⟩
  · rw [read, read']
    exact .done (.error e)
  · rw [read, read']
    exact .done (.ok rfl)

/-! ## Rotations -/

namespace Rotation

variable {exclude secret token : String} {description : Description}

theorem alike_requireSecret (selector : Selector) :
    Plan.Alike OneName (requireSecret secret selector) (requireSecret secret selector) := by
  refine (alike_get secret selector).bind fun found found' alike => ?_
  cases alike with
  | none => exact alike_fail _ _
  | some values => exact alike_credential values.2 secret

theorem alike_checked (response : Response) (context : String) :
    Plan.Alike (· = ·) (do let _ ← ofExcept (response.ensureSuccess context))
      (do let _ ← ofExcept (response.ensureSuccess context)) :=
  (alike_ofExcept _).bind fun _ _ _ => alike_pure ()

theorem alike_createSecret : Plan.Alike (· = ·) (createSecret exclude secret token)
    (createSecret exclude secret token) := by
  refine (alike_requireSecret _).bind fun current current' names => ?_
  obtain ⟨username, _⟩ := current
  obtain ⟨_, _⟩ := current'
  obtain rfl : username = _ := names
  refine (alike_get secret _).bind fun found found' alike => ?_
  cases alike with
  | some => exact alike_pure ()
  | none =>
    refine (alike_generate exclude).bind fun p q _ => ?_
    exact (alike_put secret token username p q .pending).bind fun _ _ _ => alike_pure ()

theorem alike_setSecret : Plan.Alike (· = ·) (setSecret secret token) (setSecret secret token) := by
  refine (alike_requireSecret _).bind fun pending pending' names => ?_
  obtain ⟨username, p⟩ := pending
  obtain ⟨_, q⟩ := pending'
  obtain rfl : username = _ := names
  refine (alike_send (.patched username p q)).bind fun response response' same => ?_
  rw [← same]
  exact alike_checked response _

theorem alike_testSecret : Plan.Alike (· = ·) (testSecret secret token) (testSecret secret token) := by
  refine (alike_requireSecret _).bind fun pending pending' names => ?_
  obtain ⟨username, p⟩ := pending
  obtain ⟨_, q⟩ := pending'
  obtain rfl : username = _ := names
  refine (alike_authenticate username p q).bind fun response response' same => ?_
  rw [← same]
  exact alike_checked response _

theorem alike_finishSecret :
    Plan.Alike (· = ·) (finishSecret secret token description) (finishSecret secret token description) := by
  unfold finishSecret
  dsimp only
  split
  · exact alike_pure ()
  · exact (alike_promote secret token _).bind fun _ _ _ => alike_pure ()

/-- **A rotation is alike itself**: passwords do not decide what it asks next. -/
theorem alike_handle (exclude : String) (event : RotationEvent) :
    Plan.Alike (· = ·) (handle exclude event) (handle exclude event) := by
  refine (alike_ofExcept event.step).bind fun step _ same => ?_
  subst same
  refine (alike_describe event.secret).bind fun description _ same => ?_
  subst same
  split
  · exact alike_fail _ _
  · exact alike_pure ()
  · cases step with
    | create => exact alike_createSecret
    | set => exact alike_setSecret
    | test => exact alike_testSecret
    | finish => exact alike_finishSecret

end Rotation

/-! ## Bootstraps -/

namespace Bootstrap

theorem alike_sendChecked {r r' : Request} (context : String) (calls : Call.Alike (.send r) (.send r')) :
    Plan.Alike (· = ·) (sendChecked context r) (sendChecked context r') := by
  refine (alike_send calls).bind fun response response' same => ?_
  rw [← same]
  exact alike_ofExcept _

theorem alike_sendOnly {r r' : Request} (context : String) (calls : Call.Alike (.send r) (.send r')) :
    Plan.Alike (· = ·) (do let _ ← sendChecked context r) (do let _ ← sendChecked context r') :=
  (alike_sendChecked context calls).bind fun _ _ _ => alike_pure ()

theorem alike_readSecret (secret : String) : Plan.Alike OneName (readSecret secret) (readSecret secret) := by
  refine (alike_get secret _).bind fun found found' alike => ?_
  cases alike with
  | none => exact alike_fail _ _
  | some values => exact alike_credential values.2 secret

/-- No password can make the document of a user fail. -/
theorem alike_createUser (user : Payload.InternalUser) (secret : String) :
    Plan.Alike (· = ·) (createUser user secret) (createUser user secret) := by
  refine (alike_readSecret secret).bind fun c c' names => ?_
  obtain ⟨username, p⟩ := c
  obtain ⟨_, q⟩ := c'
  obtain rfl : username = _ := names
  rw [user.document_eq p, user.document_eq q]
  exact alike_sendOnly _ (.put user username p q)

theorem alike_deleteUser (secret : String) : Plan.Alike (· = ·) (deleteUser secret) (deleteUser secret) := by
  refine (alike_readSecret secret).bind fun c c' names => ?_
  rw [show c.username = c'.username from names]
  exact alike_sendOnly _ (.refl _)

theorem alike_importObjects (bundle : Payload.Bundle) :
    Plan.Alike (· = ·) (importObjects bundle) (importObjects bundle) := by
  refine (alike_sendChecked importContext (.refl _)).bind fun response _ same => ?_
  subst same
  refine (alike_ofExcept (ImportReply.ofText response.body)).bind fun reply _ same => ?_
  subst same
  split
  · exact alike_fail _ _
  · exact alike_pure _

theorem alike_create (p : Parameters) : Plan.Alike (· = ·) (create p) (create p) := by
  refine (alike_sendOnly _ (.refl _)).bind fun _ _ _ => ?_
  refine (alike_ofExcept _).bind fun mapping _ same => ?_
  subst same
  refine (alike_sendOnly _ (.refl _)).bind fun _ _ _ => ?_
  refine (alike_enable p.domainName).bind fun _ _ _ => ?_
  refine (alike_createUser .admin p.adminSecret).bind fun _ _ _ => ?_
  refine (alike_createUser .readOnly p.userSecret).bind fun _ _ _ => ?_
  refine (alike_each (fun t => alike_sendOnly _ (.refl _)) _).bind fun _ _ _ => ?_
  refine (alike_importObjects _).bind fun objects _ same => ?_
  subst same
  exact alike_pure _

theorem alike_remove (p : Parameters) (captured : List SavedObject) :
    Plan.Alike (· = ·) (remove p captured) (remove p captured) := by
  refine (alike_sendOnly _ (.refl _)).bind fun _ _ _ => ?_
  refine (alike_sendOnly _ (.refl _)).bind fun _ _ _ => ?_
  refine (alike_each alike_deleteUser _).bind fun _ _ _ => ?_
  refine (alike_each (fun t => alike_sendOnly _ (.refl _)) _).bind fun _ _ _ => ?_
  exact alike_each (fun o => alike_sendOnly _ (.refl _)) captured

/-- **A bootstrap is alike itself**, whatever it is asked for. -/
theorem alike_handle (p : Parameters) (event : LifecycleEvent) :
    Plan.Alike (· = ·) (handle p event) (handle p event) := by
  refine (alike_ofExcept event.kind).bind fun kind _ same => ?_
  subst same
  cases kind with
  | create => exact alike_create p
  | update => exact alike_create p
  | delete => exact (alike_remove p event.captured).bind fun _ _ _ => alike_pure _

end Bootstrap

/-! ## Rehearsals -/

namespace Rehearsal

/-- Worlds with one script, and with stores that are alike. The passwords that will be generated may be any. -/
structure World.Alike (w w' : World) : Prop where
  replies : w.replies = w'.replies
  stores : w.store.Alike w'.store

theorem key_eq {c d : Call} (h : c.Alike d) : key c = key d := by cases h <;> rfl

theorem context_eq {c d : Call} (h : c.Alike d) : context c = context d := by cases h <;> rfl

theorem alike_answer {c d : Call} {w w' : World} (calls : c.Alike d) (worlds : w.Alike w') (reply : Option Reply) :
    Exchange.Alike ⟨c, (answer reply c w).1⟩ ⟨d, (answer reply d w').1⟩ ∧
      World.Alike (answer reply c w).2 (answer reply d w').2 := by
  obtain ⟨replies, stores⟩ := worlds
  cases calls with
  | patched username p q => exact ⟨.sent (.patched username p q) _, replies, stores⟩
  | put user username p q => exact ⟨.sent (.put user username p q) _, replies, stores⟩
  | probed username p q => exact ⟨.probed username p q _, replies, stores⟩
  | stored secret token username p q stage =>
    have texts := AlikeTexts.toText username p q
    exact ⟨.stored secret token stage texts, replies, stores.putValue texts secret token stage⟩
  | refl =>
    cases c with
    | send request => exact ⟨.sent (.refl _) _, replies, stores⟩
    | authenticate username password => exact ⟨.probed username password password _, replies, stores⟩
    | enableInternalUsers domain => exact ⟨.enabled domain, replies, stores⟩
    | describeSecret secret =>
      refine ⟨?_, replies, stores⟩
      show Exchange.Alike ⟨.describeSecret secret, w.store.describe secret⟩
        ⟨.describeSecret secret, w'.store.describe secret⟩
      rw [← stores.describe secret]
      cases w.store.describe secret with
      | error e => exact .failed (.refl _) e
      | ok d => exact .described secret d
    | getSecretValue secret selector =>
      exact ⟨.looked secret selector (stores.getValue secret selector), replies, stores⟩
    | putSecretValue secret token value stage =>
      exact ⟨.stored secret token stage (.refl value), replies, stores.putValue (.refl value) secret token stage⟩
    | getRandomPassword exclude => exact ⟨.generated exclude _ _, replies, stores⟩
    | promote secret target source =>
      obtain ⟨results, stores⟩ := stores.promote secret target source
      refine ⟨?_, replies, stores⟩
      show Exchange.Alike ⟨.promote secret target source, (w.store.promote secret target source).1⟩
        ⟨.promote secret target source, (w'.store.promote secret target source).1⟩
      rw [← results]
      cases (w.store.promote secret target source).1 with
      | error e => exact .failed (.refl _) e
      | ok => exact .promoted secret target source

/-- **Rehearsals with one script stay in step.** -/
theorem inStep_backend : InStep World.Alike backend backend := by
  intro c d w w' calls worlds
  obtain ⟨replies, stores⟩ := worlds
  unfold backend
  simp only [← key_eq calls, ← context_eq calls, ← replies]
  have after : World.Alike { w with replies := (Reply.take (key c) w.replies).2 }
      { w' with replies := (Reply.take (key c) w.replies).2 } := ⟨rfl, stores⟩
  split
  · split
    · exact ⟨.failed calls _, after⟩
    · exact alike_answer calls after _
  · exact alike_answer calls after _

theorem alike_handleAll {ε α : Type} {handle : ε → Plan α}
    (alike : ∀ event, Plan.Alike (· = ·) (handle event) (handle event)) :
    ∀ (events : List ε) {w w' : World}, w.Alike w' →
      List.Forall₂ (AlikeOutcomes World.Alike) (handleAll handle events w) (handleAll handle events w')
  | [], _, _, _ => .nil
  | event :: events, _, _, worlds =>
    have first := (alike event).run inStep_backend worlds
    .cons first (alike_handleAll alike events first.states)

/-- **Passwords do not influence what happens.** In two worlds with one script, whose stores differ in the passwords of
credentials only, and with any passwords generated, the same events have the same results, and make the same calls up to
the passwords in them; and the stores still differ in passwords only. -/
theorem passwords_do_not_matter {w w' : World} (replies : w.replies = w'.replies) (stores : w.store.Alike w'.store) :
    (∀ exclude events, List.Forall₂ (AlikeOutcomes World.Alike) (handleAll (Rotation.handle exclude) events w)
      (handleAll (Rotation.handle exclude) events w')) ∧
    ∀ p events, List.Forall₂ (AlikeOutcomes World.Alike) (handleAll (Bootstrap.handle p) events w)
      (handleAll (Bootstrap.handle p) events w') :=
  ⟨fun exclude events => alike_handleAll (Rotation.alike_handle exclude) events ⟨replies, stores⟩,
    fun p events => alike_handleAll (Bootstrap.alike_handle p) events ⟨replies, stores⟩⟩

/-- A rotation whose test is refused once, with a password full of marks that templates and literals know. -/
theorem passwords_do_not_matter_marks :
    let world (old generated : String) : World := {
      replies := [{ key := "AUTH", status := some 401, body := "no", uses := some 1 }]
      passwords := [generated]
      store := [("s", ⟨true, [("c", ⟨some (Credential.mk "u" old).toText, [Stage.current.label]⟩),
        ("t", ⟨none, [Stage.pending.label]⟩), ("x", ⟨some "?", []⟩)]⟩)] }
    let events := [RotationStep.create, .set, .test, .test, .finish].map fun step => RotationEvent.mk "s" "t" step.name
    let outcomes (w : World) := handleAll (Rotation.handle "") events w
    let w := world "\x7b\x7b x \x7d\x7d" "\"\\\n"
    let w' := world "p" "q"
    w.replies = w'.replies ∧ w.store.Alike w'.store ∧
      List.Forall₂ (AlikeOutcomes World.Alike) (outcomes w) (outcomes w') ∧
      (outcomes w).map (·.result) =
        [.ok (), .ok (), .error (.configuration "authentication test of u" 401 "no"), .ok (), .ok ()] := by
  intro world events outcomes w w'
  have replies : w.replies = w'.replies := rfl
  have current := AlikeTexts.toText "u" "\x7b\x7b x \x7d\x7d" "p"
  have stores : w.store.Alike w'.store := .cons ⟨rfl, rfl,
    .cons ⟨rfl, .some current, rfl⟩ (.cons ⟨rfl, .none, rfl⟩ (.cons ⟨rfl, .some (AlikeTexts.refl "?"), rfl⟩ .nil))⟩ .nil
  exact ⟨replies, stores, (passwords_do_not_matter replies stores).1 "" events, by decide +kernel⟩

end Rehearsal
end SearchDomain
