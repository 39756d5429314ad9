import SearchDomain.Proofs.Rotation.Course
/-!
# Independence — rotations of different secrets

Events for any number of secrets come in any order, each with ports of its own, and share one store. An event asks about
its own secret only (`Course.within`). The answer to such a call is read off that secret (`Turn.answer_congr`), and no
other secret is touched by it (`Turn.answer_elsewhere`). So what comes of the events for one secret, and what becomes of
the secret, is what comes of them alone (`rotations_independent`).
-/
namespace SearchDomain

/-- The secret that a call is about, if it is about one. -/
def Call.secret? : Call → Option String
  | .describeSecret secret => some secret
  | .getSecretValue secret _ => some secret
  | .putSecretValue secret _ _ _ => some secret
  | .promote secret _ _ => some secret
  | _ => none

/-- A call about this secret or about none. -/
def Call.Within (secret : String) (c : Call) : Prop := ∀ other ∈ c.secret?, other = secret

namespace SecretStore

/-! ## One secret of a store -/

variable {store store' : SecretStore} {secret other token value target : String} {stage : Stage}
  {source : Option String}

theorem describe_congr (same : Table.get? secret store = Table.get? secret store') :
    store.describe secret = store'.describe secret := by
  unfold describe
  rw [same]

theorem getValue_congr (same : Table.get? secret store = Table.get? secret store') (selector : Selector) :
    store.getValue secret selector = store'.getValue secret selector := by
  unfold getValue
  rw [same]

theorem get?_putValue_congr (same : Table.get? secret store = Table.get? secret store') :
    Table.get? secret (store.putValue secret token value stage) =
      Table.get? secret (store'.putValue secret token value stage) := by
  unfold putValue
  simp only [Table.get?_set, if_true, same]

theorem get?_putValue_of_ne (hne : secret ≠ other) :
    Table.get? other (store.putValue secret token value stage) = Table.get? other store := by
  unfold putValue
  simp only [Table.get?_set, if_neg hne]

/-- A promotion goes by what its secret is, and tells what it becomes. -/
theorem promote_congr (same : Table.get? secret store = Table.get? secret store') :
    (store.promote secret target source).1 = (store'.promote secret target source).1 ∧
      Table.get? secret (store.promote secret target source).2 =
        Table.get? secret (store'.promote secret target source).2 := by
  unfold promote
  rw [← same]
  cases known : Table.get? secret store with
  | none => exact ⟨rfl, same⟩
  | some s =>
    dsimp only
    split
    · exact ⟨rfl, by simp only [Table.get?_set, if_true]⟩
    · exact ⟨rfl, by simp only [Table.get?_set, if_true]⟩

theorem get?_promote_of_ne (hne : secret ≠ other) :
    Table.get? other (store.promote secret target source).2 = Table.get? other store := by
  unfold promote
  cases Table.get? secret store with
  | none => rfl
  | some s =>
    dsimp only
    split
    · rw [Table.get?_set, if_neg hne]
    · rw [Table.get?_set, if_neg hne]

end SecretStore

namespace Rotation

open DomainApi (Response)
open Plan

/-! ## Ports -/

/-- What the ports of an event make of a call. -/
inductive Turn
  /-- The call fails, and nobody hears of it. -/
  | refuses (e : Error)
  /-- The call is answered. The domain's response and the password that may be generated are fixed here. -/
  | passes (response : Response) (password : String)
  /-- The call is heard, but its answer is lost. -/
  | loses (e : Error)

/-- The answer of a rehearsal that is given one response and one password, and its store afterwards. -/
def rehearsed (response : Response) (password : String) (c : Call) (store : SecretStore) :
    Except Error c.Answer × SecretStore :=
  let reply : Rehearsal.Reply := { key := "*", status := some response.status, body := response.body }
  let (answer, world) := Rehearsal.answer (some reply) c { store, passwords := [password] }
  (answer, world.store)

def Turn.answer (turn : Turn) (c : Call) (store : SecretStore) : Except Error c.Answer × SecretStore :=
  match turn with
  | .refuses e => (.error e, store)
  | .passes response password => rehearsed response password c store
  | .loses e => (.error e, (rehearsed ⟨200, ""⟩ "" c store).2)

/-- An event and its ports: what they make of a call, after the calls that the event has made before it. -/
structure Delivery where
  event : RotationEvent
  ports : List Call → Call → Turn

def Delivery.backend (d : Delivery) : Backend (List Call × SecretStore) := fun c (earlier, store) =>
  let (answer, store) := (d.ports earlier c).answer c store
  (answer, earlier ++ [c], store)

def Delivery.outcome (exclude : String) (d : Delivery) (store : SecretStore) : Outcome (List Call × SecretStore) Unit :=
  (handle exclude d.event).run d.backend ([], store)

/-- What came of an event. -/
structure Report where
  event : RotationEvent
  calls : List Call
  result : Except Error Unit

def Delivery.report (exclude : String) (d : Delivery) (store : SecretStore) : Report :=
  let outcome := d.outcome exclude store
  ⟨d.event, outcome.calls, outcome.result⟩

/-- Handle events one after the other: the report of each, and the store after the last. -/
def deliverAll (exclude : String) : List Delivery → SecretStore → List Report × SecretStore
  | [], store => ([], store)
  | d :: deliveries, store =>
    let (reports, last) := deliverAll exclude deliveries (d.outcome exclude store).state.2
    (d.report exclude store :: reports, last)

variable {exclude secret : String} {event : RotationEvent} {xs : List Exchange} {r : Except Error Unit} {c : Call}
  {store store' : SecretStore}

theorem rehearsed_congr (within : c.Within secret) (same : Table.get? secret store = Table.get? secret store')
    (response : Response) (password : String) :
    (rehearsed response password c store).1 = (rehearsed response password c store').1 ∧
      Table.get? secret (rehearsed response password c store).2 =
        Table.get? secret (rehearsed response password c store').2 := by
  cases c with
  | describeSecret other =>
    obtain rfl := within other rfl
    exact ⟨SecretStore.describe_congr same, same⟩
  | getSecretValue other selector =>
    obtain rfl := within other rfl
    exact ⟨congrArg Except.ok (SecretStore.getValue_congr same selector), same⟩
  | putSecretValue other token value stage =>
    obtain rfl := within other rfl
    exact ⟨rfl, SecretStore.get?_putValue_congr same⟩
  | promote other target source =>
    obtain rfl := within other rfl
    exact SecretStore.promote_congr same
  | _ => exact ⟨rfl, same⟩

theorem get?_rehearsed_of_ne {other : String} (within : c.Within secret) (hne : secret ≠ other) (response : Response)
    (password : String) : Table.get? other (rehearsed response password c store).2 = Table.get? other store := by
  cases c with
  | putSecretValue s token value stage =>
    obtain rfl := within s rfl
    exact SecretStore.get?_putValue_of_ne hne
  | promote s target source =>
    obtain rfl := within s rfl
    exact SecretStore.get?_promote_of_ne hne
  | _ => rfl

/-- **A call about one secret is answered from that secret**, and decides alone what becomes of it. -/
theorem Turn.answer_congr (turn : Turn) (within : c.Within secret)
    (same : Table.get? secret store = Table.get? secret store') :
    (turn.answer c store).1 = (turn.answer c store').1 ∧
      Table.get? secret (turn.answer c store).2 = Table.get? secret (turn.answer c store').2 := by
  cases turn with
  | refuses e => exact ⟨rfl, same⟩
  | passes response password => exact rehearsed_congr within same response password
  | loses e => exact ⟨rfl, (rehearsed_congr within same _ _).2⟩

/-- **A call about one secret leaves all others as they are.** -/
theorem Turn.answer_elsewhere (turn : Turn) {other : String} (within : c.Within secret) (hne : secret ≠ other) :
    Table.get? other (turn.answer c store).2 = Table.get? other store := by
  cases turn with
  | refuses e => rfl
  | passes response password => exact get?_rehearsed_of_ne within hne response password
  | loses e => exact get?_rehearsed_of_ne within hne _ _

/-! ## Events -/

/-- **An event asks about its own secret only.** -/
theorem Course.within (course : Course exclude event xs r) : ∀ x ∈ xs, x.call.Within event.secret := by
  cases course with
  | @taken step description ys r hstep hgate rest =>
    refine List.forall_mem_cons.2 ⟨by simp [Call.Within, Call.secret?], ?_⟩
    cases step with
    | create => cases yields_createSecret rest <;> simp [Call.Within, Call.secret?]
    | set =>
      obtain ⟨answer, ⟨e, -, rfl, -⟩ | ⟨credential, reply, -, rfl, -⟩⟩ := yields_setSecret rest <;>
        simp [Call.Within, Call.secret?]
    | test =>
      obtain ⟨answer, ⟨e, -, rfl, -⟩ | ⟨credential, reply, -, rfl, -⟩⟩ := yields_testSecret rest <;>
        simp [Call.Within, Call.secret?]
    | finish =>
      obtain ⟨-, rfl, -⟩ | ⟨-, answer, rfl, -⟩ := yields_finishSecret rest <;> simp [Call.Within, Call.secret?]
  | _ => simp [Call.Within, Call.secret?]

theorem within_of_mem_calls {σ : Type} {backend : Backend σ} {s : σ}
    (h : c ∈ ((handle exclude event).run backend s).calls) : c.Within event.secret := by
  rw [calls_exchanges] at h
  obtain ⟨x, hx, rfl⟩ := List.mem_map.1 h
  exact (course_of_yields (yields_exchanges backend _ s)).within x hx

/-- What comes of an event depends on its own secret only. -/
theorem Delivery.outcome_congr (exclude : String) (d : Delivery)
    (same : Table.get? d.event.secret store = Table.get? d.event.secret store') :
    d.report exclude store = d.report exclude store' ∧
      Table.get? d.event.secret (d.outcome exclude store).state.2 =
        Table.get? d.event.secret (d.outcome exclude store').state.2 := by
  let Same (s t : List Call × SecretStore) := s.1 = t.1 ∧ Table.get? d.event.secret s.2 = Table.get? d.event.secret t.2
  have step : ∀ c s t, c.Within d.event.secret → Same s t →
      (d.backend c s).1 = (d.backend c t).1 ∧ Same (d.backend c s).2 (d.backend c t).2 := by
    rintro c ⟨earlier, store⟩ ⟨_, store'⟩ within ⟨rfl, same⟩
    obtain ⟨answer, after⟩ := (d.ports earlier c).answer_congr within same
    exact ⟨answer, rfl, after⟩
  have start : Same ([], store) ([], store') := ⟨rfl, same⟩
  obtain ⟨calls, result, -, after⟩ := run_agrees step (handle exclude d.event) (fun _ => within_of_mem_calls) start
  refine ⟨?_, after⟩
  simp only [report, outcome, calls, result]

/-- An event leaves other secrets as they are. -/
theorem Delivery.outcome_elsewhere (exclude : String) (d : Delivery) (store : SecretStore)
    (hne : d.event.secret ≠ secret) :
    Table.get? secret (d.outcome exclude store).state.2 = Table.get? secret store := by
  let Kept (s : List Call × SecretStore) := Table.get? secret s.2 = Table.get? secret store
  have step : ∀ c s, c.Within d.event.secret → Kept s → Kept (d.backend c s).2 := fun c s within kept =>
    ((d.ports s.1 c).answer_elsewhere within hne).trans kept
  exact run_keeps step (handle exclude d.event) (fun _ => within_of_mem_calls) rfl

/-! ## Sequences of events -/

theorem deliverAll_congr (exclude secret : String) : ∀ (deliveries : List Delivery) {store store' : SecretStore},
    Table.get? secret store = Table.get? secret store' →
    (deliverAll exclude deliveries store).1.filter (·.event.secret = secret) =
        (deliverAll exclude (deliveries.filter (·.event.secret = secret)) store').1 ∧
      Table.get? secret (deliverAll exclude deliveries store).2 =
        Table.get? secret (deliverAll exclude (deliveries.filter (·.event.secret = secret)) store').2
  | [], _, _, same => ⟨rfl, same⟩
  | d :: deliveries, store, store', same => by
    by_cases own : d.event.secret = secret
    · subst own
      obtain ⟨report, after⟩ := d.outcome_congr exclude same
      obtain ⟨reports, last⟩ := deliverAll_congr exclude d.event.secret deliveries after
      rw [List.filter_cons_of_pos (by simp)]
      refine ⟨?_, last⟩
      show (d.report exclude store :: _).filter _ = d.report exclude store' :: _
      rw [List.filter_cons_of_pos (by simp [Delivery.report]), reports, report]
    · have after := d.outcome_elsewhere exclude store own
      obtain ⟨reports, last⟩ := deliverAll_congr exclude secret deliveries (after.trans same)
      rw [List.filter_cons_of_neg (by simp [own])]
      refine ⟨?_, last⟩
      show (d.report exclude store :: _).filter _ = _
      rw [List.filter_cons_of_neg (by simp [Delivery.report, own]), reports]

/-- **Rotations of different secrets are independent.** Of a sequence of events for any secrets, each with ports of its
own, the reports of the events for one secret and what that secret is in the end are the same as when these events alone
are handled, in their order and from the same store. -/
theorem rotations_independent (exclude : String) (deliveries : List Delivery) (store : SecretStore) (secret : String) :
    let (reports, last) := deliverAll exclude deliveries store
    let (own, lastOwn) := deliverAll exclude (deliveries.filter (·.event.secret = secret)) store
    reports.filter (·.event.secret = secret) = own ∧ Table.get? secret last = Table.get? secret lastOwn :=
  deliverAll_congr exclude secret deliveries rfl

end Rotation
end SearchDomain
