import SearchDomain.Proofs.Exchange
import SearchDomain.Proofs.SecretStore.View
/-!
# Serving — backends with a secret store

A backend serves a store if each call is answered as that store answers it, or fails and leaves the store alone. When
a call fails, what the domain answers and which passwords are generated is left open, so what is proved of all serving
backends holds for every script of failures and answers; a rehearsal is one of them (`serves_rehearsal`).
-/
namespace SearchDomain

namespace SecretStore

/-- An exchange that a store may take part in, and the store after it. -/
inductive Replies : SecretStore → Exchange → SecretStore → Prop
  | failed (store : SecretStore) (c : Call) (e : Error) : Replies store ⟨c, .error e⟩ store
  | sent (store : SecretStore) (request : DomainApi.Request) (response : DomainApi.Response) :
      Replies store ⟨.send request, .ok response⟩ store
  | probed (store : SecretStore) (username password : String) (response : DomainApi.Response) :
      Replies store ⟨.authenticate username password, .ok response⟩ store
  | enabled (store : SecretStore) (domain : String) : Replies store ⟨.enableInternalUsers domain, .ok ()⟩ store
  | described (store : SecretStore) (secret : String) :
      Replies store ⟨.describeSecret secret, store.describe secret⟩ store
  | looked (store : SecretStore) (secret : String) (selector : Selector) :
      Replies store ⟨.getSecretValue secret selector, .ok (store.getValue secret selector)⟩ store
  | stored (store : SecretStore) (secret token value : String) (stage : Stage) :
      Replies store ⟨.putSecretValue secret token value stage, .ok ()⟩ (store.putValue secret token value stage)
  | generated (store : SecretStore) (exclude password : String) :
      Replies store ⟨.getRandomPassword exclude, .ok password⟩ store
  | promoted (store : SecretStore) (secret target : String) (source : Option String) :
      Replies store ⟨.promote secret target source, (store.promote secret target source).1⟩
        (store.promote secret target source).2

/-- Exchanges that a store may take part in one after the other, and the store after them. -/
inductive Follows : SecretStore → List Exchange → SecretStore → Prop
  | nil (store : SecretStore) : Follows store [] store
  | cons {store store₁ store₂ : SecretStore} {x : Exchange} {xs : List Exchange} (first : Replies store x store₁)
      (rest : Follows store₁ xs store₂) : Follows store (x :: xs) store₂

variable {store store' : SecretStore} {x : Exchange} {xs : List Exchange}

theorem follows_nil_iff : Follows store [] store' ↔ store' = store := by
  constructor
  · intro h
    cases h
    rfl
  · rintro rfl
    exact .nil _

theorem follows_cons_iff :
    Follows store (x :: xs) store' ↔ ∃ store₁, Replies store x store₁ ∧ Follows store₁ xs store' := by
  constructor
  · intro h
    cases h with
    | cons first rest => exact ⟨_, first, rest⟩
  · rintro ⟨store₁, first, rest⟩
    exact .cons first rest

/-! ## The exchanges of each call -/

theorem replies_describe {secret : String} {answer : Except Error Description}
    (h : Replies store ⟨.describeSecret secret, answer⟩ store') :
    store' = store ∧ ∀ d, answer = .ok d → store.describe secret = .ok d := by
  cases h with
  | failed _ e => exact ⟨rfl, fun d hd => by cases hd⟩
  | described => exact ⟨rfl, fun d hd => hd⟩

theorem replies_get {secret : String} {selector : Selector} {answer : Except Error (Option SecretValue)}
    (h : Replies store ⟨.getSecretValue secret selector, answer⟩ store') :
    store' = store ∧ ∀ found, answer = .ok found → store.getValue secret selector = found := by
  cases h with
  | failed _ e => exact ⟨rfl, fun found hf => by cases hf⟩
  | looked => exact ⟨rfl, fun found hf => by cases hf; rfl⟩

theorem replies_put {secret token value : String} {stage : Stage} {answer : Except Error Unit}
    (h : Replies store ⟨.putSecretValue secret token value stage, answer⟩ store') :
    (∃ e, answer = .error e ∧ store' = store) ∨ answer = .ok () ∧ store' = store.putValue secret token value stage := by
  cases h with
  | failed _ e => exact .inl ⟨e, rfl, rfl⟩
  | stored => exact .inr ⟨rfl, rfl⟩

theorem replies_promote {secret target : String} {source : Option String} {answer : Except Error Unit}
    (h : Replies store ⟨.promote secret target source, answer⟩ store') :
    (∃ e, answer = .error e ∧ store' = store) ∨
      answer = (store.promote secret target source).1 ∧ store' = (store.promote secret target source).2 := by
  cases h with
  | failed _ e => exact .inl ⟨e, rfl, rfl⟩
  | promoted => exact .inr ⟨rfl, rfl⟩

/-- Only storing a value and promoting a version may change a store. -/
theorem replies_other (h : Replies store x store') (put : ∀ s t v g, x.call ≠ .putSecretValue s t v g)
    (promote : ∀ s t f, x.call ≠ .promote s t f) : store' = store := by
  cases h with
  | stored secret token value stage => exact absurd rfl (put secret token value stage)
  | promoted secret target source => exact absurd rfl (promote secret target source)
  | _ => rfl

/-- A call that leaves every store alone. -/
def Quiet (c : Call) : Prop := (∀ s t v g, c ≠ .putSecretValue s t v g) ∧ ∀ s t f, c ≠ .promote s t f

/-- Exchanges of quiet calls can all be had with the store as it is. -/
theorem follows_quiet (h : Follows store xs store') (quiet : ∀ x ∈ xs, Quiet x.call) :
    store' = store ∧ ∀ x ∈ xs, Replies store x store := by
  induction h with
  | nil => exact ⟨rfl, fun x hx => nomatch hx⟩
  | cons first _ ih =>
    obtain ⟨put, promote⟩ := quiet _ List.mem_cons_self
    obtain rfl := replies_other first put promote
    obtain ⟨rfl, rest⟩ := ih fun x hx => quiet x (List.mem_cons_of_mem _ hx)
    exact ⟨rfl, List.forall_mem_cons.2 ⟨first, rest⟩⟩

/-! ## Reading first -/

theorem follows_describe {secret : String} {answer : Except Error Description}
    (h : Follows store (⟨.describeSecret secret, answer⟩ :: xs) store') :
    (∀ d, answer = .ok d → store.describe secret = .ok d) ∧ Follows store xs store' := by
  obtain ⟨store₁, first, rest⟩ := follows_cons_iff.1 h
  obtain ⟨rfl, described⟩ := replies_describe first
  exact ⟨described, rest⟩

theorem follows_get {secret : String} {selector : Selector} {answer : Except Error (Option SecretValue)}
    (h : Follows store (⟨.getSecretValue secret selector, answer⟩ :: xs) store') :
    (∀ found, answer = .ok found → store.getValue secret selector = found) ∧ Follows store xs store' := by
  obtain ⟨store₁, first, rest⟩ := follows_cons_iff.1 h
  obtain ⟨rfl, found⟩ := replies_get first
  exact ⟨found, rest⟩

theorem follows_other (h : Follows store (x :: xs) store') (put : ∀ s t v g, x.call ≠ .putSecretValue s t v g)
    (promote : ∀ s t f, x.call ≠ .promote s t f) : Follows store xs store' := by
  obtain ⟨store₁, first, rest⟩ := follows_cons_iff.1 h
  obtain rfl := replies_other first put promote
  exact rest

end SecretStore

/-! ## Backends -/

/-- A backend on whose states `view` finds a secret store that answers as a secret store does. -/
def Serves {σ : Type} (backend : Plan.Backend σ) (view : σ → SecretStore) : Prop :=
  ∀ c s, SecretStore.Replies (view s) ⟨c, (backend c s).1⟩ (view (backend c s).2)

namespace Serves

open Plan SecretStore

variable {α σ : Type} {backend : Backend σ} {view : σ → SecretStore}

theorem follows (serves : Serves backend view) (p : Plan α) (s : σ) :
    Follows (view s) (p.exchanges backend s) (view (p.run backend s).state) := by
  induction p generalizing s with
  | done result => exact .nil _
  | call c next ih => exact .cons (serves c s) (ih _ _)

/-- A call of a run comes after some exchanges, which have led the store to where the call finds it. -/
theorem follows_moment (serves : Serves backend view) {p : Plan α} {s s' : σ} {c : Call}
    (h : (s', c) ∈ p.moments backend s) :
    ∃ xs answer ys, p.exchanges backend s = xs ++ ⟨c, answer⟩ :: ys ∧ Follows (view s) xs (view s') := by
  induction p generalizing s with
  | done result => cases h
  | call c₁ next ih =>
    rcases List.mem_cons.1 h with he | h
    · cases he
      exact ⟨[], _, _, rfl, .nil _⟩
    · obtain ⟨xs, answer, ys, hx, hf⟩ := ih _ h
      exact ⟨⟨c₁, _⟩ :: xs, answer, ys, congrArg _ hx, .cons (serves c₁ s) hf⟩

end Serves

/-! ## Rehearsals -/

theorem Rehearsal.replies_answer (reply : Option Reply) (c : Call) (w : World) :
    SecretStore.Replies w.store ⟨c, (answer reply c w).1⟩ (answer reply c w).2.store := by
  cases c with
  | send request => exact .sent _ _ _
  | authenticate username password => exact .probed _ _ _ _
  | enableInternalUsers domain => exact .enabled _ _
  | describeSecret secret => exact .described _ _
  | getSecretValue secret selector => exact .looked _ _ _
  | putSecretValue secret token value stage => exact .stored _ _ _ _ _
  | getRandomPassword exclude => exact .generated _ _ _
  | promote secret target source => exact .promoted _ _ _ _

/-- **Every rehearsal serves its store**, whatever its script says. -/
theorem serves_rehearsal : Serves Rehearsal.backend Rehearsal.World.store := by
  intro c w
  unfold Rehearsal.backend
  simp only
  split
  · split
    · exact .failed _ _ _
    · exact Rehearsal.replies_answer _ c { w with replies := (Rehearsal.Reply.take (Rehearsal.key c) w.replies).2 }
  · exact Rehearsal.replies_answer _ c { w with replies := (Rehearsal.Reply.take (Rehearsal.key c) w.replies).2 }

end SearchDomain
