import SearchDomain.Proofs.Recording
import SearchDomain.Proofs.Rotation.Gate
/-!
# Absence — a trouble is never taken for a version that is not there

A value is stored for a token only after the secret store has refused the look-up of the pending version and has said
that there is none. Any other trouble with a look-up, be it a refusal, a reply that cannot be read or silence, ends
the event, and nothing is sent any more (`absence_is_told`).
-/
namespace SearchDomain.Rotation

open Plan
open Aws.SecretsManager (getSecretValue Reading)

variable {exclude secret token : String} {event : RotationEvent} {selector : Selector} {xs : List Exchange}
  {r : Except Error Unit} {a b : Except Error (Option SecretValue)}

/-! ## Errors and look-ups in a course -/

theorem brittle_requireSecret (secret : String) (selector : Selector) : Brittle (requireSecret secret selector) := by
  refine .bind (.perform _) fun found => ?_
  cases found with
  | none => exact .fail _
  | some value => exact .ofExcept _

theorem brittle_takeStep (exclude : String) (step : RotationStep) (secret token : String) (description : Description) :
    Brittle (takeStep exclude step secret token description) := by
  cases step with
  | create =>
    refine .bind (brittle_requireSecret _ _) fun current => .bind (.perform _) fun found => ?_
    cases found with
    | none => exact .bind (.perform _) fun password => .bind (.perform _) fun _ => .pure _
    | some value => exact .pure _
  | set =>
    exact .bind (brittle_requireSecret _ _) fun pending => .bind (.perform _) fun response =>
      .bind (.ofExcept _) fun _ => .pure _
  | test =>
    exact .bind (brittle_requireSecret _ _) fun pending => .bind (.perform _) fun response =>
      .bind (.ofExcept _) fun _ => .pure _
  | finish =>
    show Brittle (finishSecret secret token description)
    unfold finishSecret
    simp only
    split
    · exact .pure _
    · exact .bind (.perform _) fun _ => .pure _

/-- **An error ends the event.** -/
theorem brittle_handle (exclude : String) (event : RotationEvent) : Brittle (handle exclude event) := by
  refine .bind (.ofExcept _) fun step => .bind (.perform _) fun description => ?_
  split
  · exact .fail _
  · exact .pure _
  · exact brittle_takeStep _ _ _ _ _

/-- What a course looks up, it looks up once. -/
structure LooksUp (event : RotationEvent) (xs : List Exchange) : Prop where
  known : ∀ {secret selector a}, ⟨.getSecretValue secret selector, a⟩ ∈ xs →
    secret = event.secret ∧ (selector = .stage .current ∨ selector = pendingVersion event.token)
  once : ∀ {secret selector a b}, ⟨.getSecretValue secret selector, a⟩ ∈ xs →
    ⟨.getSecretValue secret selector, b⟩ ∈ xs → a = b

namespace LooksUp

theorem nil (event : RotationEvent) : LooksUp event [] := ⟨nofun, nofun⟩

theorem other {x : Exchange} (call : ∀ secret selector, x.call ≠ .getSecretValue secret selector)
    (rest : LooksUp event xs) : LooksUp event (x :: xs) where
  known := fun h => by
    obtain rfl | h := List.mem_cons.1 h
    · exact absurd rfl (call _ _)
    · exact rest.known h
  once := fun ha hb => by
    obtain rfl | ha := List.mem_cons.1 ha
    · exact absurd rfl (call _ _)
    obtain rfl | hb := List.mem_cons.1 hb
    · exact absurd rfl (call _ _)
    · exact rest.once ha hb

theorem look (known : selector = .stage .current ∨ selector = pendingVersion event.token) (rest : LooksUp event xs)
    (fresh : ∀ b, ⟨.getSecretValue event.secret selector, b⟩ ∉ xs) :
    LooksUp event (⟨.getSecretValue event.secret selector, a⟩ :: xs) where
  known := fun h => by
    obtain h | h := List.mem_cons.1 h
    · cases h
      exact ⟨rfl, known⟩
    · exact rest.known h
  once := fun ha hb => by
    obtain ha | ha := List.mem_cons.1 ha
    · cases ha
      obtain hb | hb := List.mem_cons.1 hb
      · cases hb
        rfl
      · exact absurd hb (fresh _)
    · obtain hb | hb := List.mem_cons.1 hb
      · cases hb
        exact absurd ha (fresh _)
      · exact rest.once ha hb

theorem of_create (course : CreateCourse exclude event.secret event.token xs r) : LooksUp event xs := by
  have current : Selector.stage .current ≠ pendingVersion event.token := nofun
  cases course with
  | unread => exact .look (.inl rfl) (.nil _) nofun
  | unsought => exact .look (.inl rfl) (.look (.inr rfl) (.nil _) nofun) (by simp [current])
  | kept => exact .look (.inl rfl) (.look (.inr rfl) (.nil _) nofun) (by simp [current])
  | ungenerated =>
    exact .look (.inl rfl) (.look (.inr rfl) (.other nofun (.nil _)) (by simp)) (by simp [current])
  | put =>
    exact .look (.inl rfl) (.look (.inr rfl) (.other nofun (.other nofun (.nil _))) (by simp)) (by simp [current])

theorem left {ys : List Exchange} (h : LooksUp event (xs ++ ys)) : LooksUp event xs where
  known := fun mem => h.known (List.mem_append_left _ mem)
  once := fun ha hb => h.once (List.mem_append_left _ ha) (List.mem_append_left _ hb)

end LooksUp

theorem Course.looksUp (course : Course exclude event xs r) : LooksUp event xs := by
  cases course with
  | unknown => exact .nil _
  | @taken step description xs r _ _ rest =>
    refine .other nofun ?_
    cases step with
    | create => exact .of_create (yields_createSecret rest)
    | set =>
      obtain ⟨a, ⟨e, -, rfl, rfl⟩ | ⟨credential, reply, -, rfl, rfl⟩⟩ := yields_setSecret rest
      · exact .look (.inr rfl) (.nil _) nofun
      · exact .look (.inr rfl) (.other nofun (.nil _)) (by simp)
    | test =>
      obtain ⟨a, ⟨e, -, rfl, rfl⟩ | ⟨credential, reply, -, rfl, rfl⟩⟩ := yields_testSecret rest
      · exact .look (.inr rfl) (.nil _) nofun
      · exact .look (.inr rfl) (.other nofun (.nil _)) (by simp)
    | finish =>
      obtain ⟨-, rfl, rfl⟩ | ⟨-, answer, rfl, rfl⟩ := yields_finishSecret rest
      · exact .nil _
      · exact .other nofun (.nil _)
  | _ => exact .other nofun (.nil _)

/-! ## Messages -/

theorem selector_of_request? {m : Aws.SecretsManager} {request : Aws.Request}
    (known : selector = .stage .current ∨ selector = pendingVersion token)
    (h : m.request? (getSecretValue secret selector) = some request)
    (pending : m.request? (getSecretValue secret (pendingVersion token)) = some request) :
    selector = pendingVersion token := by
  obtain rfl | rfl := known
  · obtain ⟨uri, hu, rfl⟩ := Option.map_eq_some_iff.1 h
    obtain ⟨uri', hu', he⟩ := Option.map_eq_some_iff.1 pending
    -- a look-up of the current version names no version
    have body := congrArg Aws.Request.body he
    simp [getSecretValue, pendingVersion, Selector.id?] at body
  · rfl

/-- What the messages of an event tell about the values that are looked up and stored. -/
structure Told (secrets : Aws.SecretsManager) (event : RotationEvent) (xs : List Exchange) (r : Except Error Unit)
    (messages : List Message) : Prop where
  /-- Before a value is stored, the pending version has been looked up, and each time that was refused because there
  is none. -/
  storing : ∀ {before after : List Message} {request : Aws.Request} {reply : Option Aws.Reply},
    messages = before ++ .service request reply :: after → request.target = some putTarget →
      ∃ lookup, secrets.request? (getSecretValue event.secret (pendingVersion event.token)) = some lookup ∧
        (∃ answer, .service lookup answer ∈ before) ∧ ∀ answer, .service lookup answer ∈ before →
          ∃ refusal, answer = some refusal ∧ refusal.isSuccess = false ∧
            refusal.cause? = some "ResourceNotFoundException"
  /-- A look-up is answered with what the reply is read as. An error then ends the event and is its result; it is
  about the secret, and there is no later message. -/
  lookups : ∀ {before after : List Message} {request : Aws.Request} {reply : Option Aws.Reply},
    messages = before ++ .service request reply :: after → request.target = some getTarget →
      ∃ selector answer, (selector = .stage .current ∨ selector = pendingVersion event.token) ∧
        secrets.request? (getSecretValue event.secret selector) = some request ∧
        ⟨.getSecretValue event.secret selector, answer⟩ ∈ xs ∧ Reading event.secret selector reply answer ∧
        ∀ e, answer = .error e → after = [] ∧ r = .error e ∧ ∃ reason, e = .secretAccess event.secret reason

theorem reading_absent {reply : Option Aws.Reply} (h : Reading secret selector reply (.ok none)) :
    ∃ refusal, reply = some refusal ∧ refusal.isSuccess = false ∧
      refusal.cause? = some "ResourceNotFoundException" := by
  cases h with
  | absent refused cause => exact ⟨_, rfl, refused, cause⟩

theorem reading_error {reply : Option Aws.Reply} {e : Error} (h : Reading secret selector reply (.error e)) :
    ∃ reason, e = .secretAccess secret reason := by
  cases h <;> exact ⟨_, rfl⟩

variable {c : Clients} {parts : List (List Message)}

theorem lookups_of_carried (looks : LooksUp event xs) (h : List.Forall₂ (Carried c) xs parts)
    {before after : List Message} {request : Aws.Request} {reply : Option Aws.Reply}
    (split : parts.flatten = before ++ .service request reply :: after) (target : request.target = some getTarget) :
    ∃ selector answer earlier later qs, xs = earlier ++ ⟨.getSecretValue event.secret selector, answer⟩ :: later ∧
      List.Forall₂ (Carried c) later qs ∧ after = qs.flatten ∧
      (selector = .stage .current ∨ selector = pendingVersion event.token) ∧
      c.secrets.request? (getSecretValue event.secret selector) = some request ∧
      Reading event.secret selector reply answer := by
  obtain ⟨earlier, x, later, ps, first, last, qs, rfl, -, hx, hlater, -, rfl⟩ := carried_split h split
  obtain ⟨secret, selector, answer, rfl, rfl, rfl, own, reading⟩ := lookedUp_of_target hx target
  obtain ⟨rfl, known⟩ := looks.known (List.mem_append_right _ List.mem_cons_self)
  exact ⟨selector, answer, earlier, later, qs, rfl, hlater, rfl, known, own, reading⟩

theorem told_of_carried (hy : Yields (handle exclude event) xs r) (h : List.Forall₂ (Carried c) xs parts) :
    Told c.secrets event xs r parts.flatten where
  storing := by
    intro before after request reply split target
    have looks := (course_of_yields hy).looksUp
    obtain ⟨earlier, x, later, ps, first, last, qs, rfl, hearlier, hx, -, hb, rfl⟩ := carried_split h split
    obtain ⟨secret, token, value, stage, answer, rfl, rfl⟩ := stored_of_target hx target
    rw [List.append_nil] at hb
    have storing := (course_of_yields hy).ending.storing.2
    obtain ⟨lookup, answer, own, mem, -⟩ := message_of_answer hearlier storing.absent
    refine ⟨lookup, own, ⟨answer, hb ▸ mem⟩, fun answer' mem' => ?_⟩
    -- that message belongs to a look-up of its own, which is the one that found nothing
    obtain ⟨front, back, hfront⟩ := List.append_of_mem (hb ▸ mem')
    obtain ⟨selector, found, _, _, _, rfl, -, -, known, own', reading⟩ :=
      lookups_of_carried looks.left hearlier hfront (target_of_request? own)
    obtain rfl := selector_of_request? known own' own
    obtain rfl := looks.left.once (List.mem_append_right _ List.mem_cons_self) storing.absent
    exact reading_absent reading
  lookups := by
    intro before after request reply split target
    obtain ⟨selector, answer, earlier, later, qs, rfl, hlater, rfl, known, own, reading⟩ :=
      lookups_of_carried (course_of_yields hy).looksUp h split target
    refine ⟨selector, answer, known, own, List.mem_append_right _ List.mem_cons_self, reading, fun e he => ?_⟩
    subst he
    obtain ⟨rfl, rfl⟩ := brittle_handle exclude event _ _ _ _ _ hy
    cases hlater
    exact ⟨rfl, rfl, reading_error reading⟩

/-- **A trouble is never taken for a version that is not there**, whatever the services reply. -/
theorem absence_is_told {σ : Type} (c : Clients) (k : Connections σ) (exclude : String) (event : RotationEvent)
    (s : σ) :
    Told c.secrets event ((handle exclude event).exchanges (c.backend k) s)
      ((handle exclude event).run (c.backend k) s).result (c.messages k (handle exclude event) s) := by
  obtain ⟨parts, hparts, hm⟩ := messages_eq c k (handle exclude event) s
  rw [hm]
  exact told_of_carried (yields_exchanges _ _ _) hparts

end SearchDomain.Rotation
