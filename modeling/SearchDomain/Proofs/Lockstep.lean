import Mathlib.Data.List.Forall2
import SearchDomain.Proofs.Credential
import SearchDomain.Proofs.Payload
import SearchDomain.Proofs.Rotation.Course
/-!
# Lockstep — two runs that differ in nothing but passwords

A password has its place in four kinds of calls and in two kinds of answers; two calls or two answers are alike if they
agree everywhere else. Two plans are alike if they make alike calls for as long as the answers are alike, and finish
alike. Plans in two parts are alike if their parts are (`Alike.bind`), and backends that answer alike calls alike keep
alike plans in step (`Alike.run`).
-/
namespace SearchDomain

/-- The request that puts an internal user. -/
def DomainApi.Request.puttingUser (user : Payload.InternalUser) (credential : Credential) : DomainApi.Request where
  method := .put
  path := DomainApi.Path.internalUser credential.username
  body := .json (user.filled credential.password)

/-- Texts that are the same, or the values of two credentials of one user. -/
def AlikeTexts (text text' : String) : Prop :=
  text = text' ∨ ∃ c c' : Credential, Credential.layout.ofText text = .ok c ∧ Credential.layout.ofText text' = .ok c' ∧
    c.username = c'.username

/-- Calls that ask for the same, but for a password in its place. -/
inductive Call.Alike : Call → Call → Prop
  | refl (c : Call) : Alike c c
  | patched (username p q : String) :
      Alike (.send (Rotation.passwordRequest ⟨username, p⟩)) (.send (Rotation.passwordRequest ⟨username, q⟩))
  | put (user : Payload.InternalUser) (username p q : String) :
      Alike (.send (.puttingUser user ⟨username, p⟩)) (.send (.puttingUser user ⟨username, q⟩))
  | probed (username p q : String) : Alike (.authenticate username p) (.authenticate username q)
  | stored (secret token username p q : String) (stage : Stage) :
      Alike (.putSecretValue secret token (Credential.mk username p).toText stage)
        (.putSecretValue secret token (Credential.mk username q).toText stage)

/-- Values of one version that are alike. -/
def SecretValue.Alike (v w : SecretValue) : Prop := v.version = w.version ∧ AlikeTexts v.text w.text

/-- Exchanges of alike calls, with answers that are the same but for the passwords in values and generated ones. -/
inductive Exchange.Alike : Exchange → Exchange → Prop
  | failed {c d : Call} (calls : c.Alike d) (e : Error) : Alike ⟨c, .error e⟩ ⟨d, .error e⟩
  | sent {r r' : DomainApi.Request} (calls : Call.Alike (.send r) (.send r')) (response : DomainApi.Response) :
      Alike ⟨.send r, .ok response⟩ ⟨.send r', .ok response⟩
  | probed (username p q : String) (response : DomainApi.Response) :
      Alike ⟨.authenticate username p, .ok response⟩ ⟨.authenticate username q, .ok response⟩
  | enabled (domain : String) : Alike ⟨.enableInternalUsers domain, .ok ()⟩ ⟨.enableInternalUsers domain, .ok ()⟩
  | described (secret : String) (d : Description) :
      Alike ⟨.describeSecret secret, .ok d⟩ ⟨.describeSecret secret, .ok d⟩
  | looked (secret : String) (selector : Selector) {found found' : Option SecretValue}
      (alike : Option.Rel SecretValue.Alike found found') :
      Alike ⟨.getSecretValue secret selector, .ok found⟩ ⟨.getSecretValue secret selector, .ok found'⟩
  | stored (secret token : String) {value value' : String} (stage : Stage) (alike : AlikeTexts value value') :
      Alike ⟨.putSecretValue secret token value stage, .ok ()⟩ ⟨.putSecretValue secret token value' stage, .ok ()⟩
  | generated (exclude p q : String) : Alike ⟨.getRandomPassword exclude, .ok p⟩ ⟨.getRandomPassword exclude, .ok q⟩
  | promoted (secret target : String) (source : Option String) :
      Alike ⟨.promote secret target source, .ok ()⟩ ⟨.promote secret target source, .ok ()⟩

theorem AlikeTexts.refl (text : String) : AlikeTexts text text := .inl rfl

theorem AlikeTexts.toText (username p q : String) :
    AlikeTexts (Credential.mk username p).toText (Credential.mk username q).toText :=
  .inr ⟨_, _, Credential.ofText_toText _, Credential.ofText_toText _, rfl⟩

/-- Alike values are read as credentials of one user, or are malformed in the same way. -/
theorem AlikeTexts.ofSecret {text text' : String} (h : AlikeTexts text text') (secret : String) :
    (∃ e, Credential.ofSecret secret text = .error e ∧ Credential.ofSecret secret text' = .error e) ∨
      ∃ username p q, Credential.ofSecret secret text = .ok ⟨username, p⟩ ∧
        Credential.ofSecret secret text' = .ok ⟨username, q⟩ := by
  rcases h with rfl | ⟨⟨username, p⟩, ⟨_, q⟩, h, h', rfl⟩
  · cases read : Credential.ofSecret secret text with
    | error e => exact .inl ⟨e, rfl, rfl⟩
    | ok c => exact .inr ⟨c.username, c.password, c.password, rfl, rfl⟩
  · exact .inr ⟨username, p, q, Json.mapError_eq_ok_iff.2 h, Json.mapError_eq_ok_iff.2 h'⟩

/-! ## Plans -/

namespace Plan

variable {α β γ δ σ τ : Type}

/-- Results that are alike: values in a relation, or one error. -/
inductive AlikeResults (V : α → β → Prop) : Except Error α → Except Error β → Prop
  | ok {x : α} {y : β} (values : V x y) : AlikeResults V (.ok x) (.ok y)
  | error (e : Error) : AlikeResults V (.error e) (.error e)

/-- Plans that make alike calls while the answers are alike, and finish alike. -/
inductive Alike (V : α → β → Prop) : Plan α → Plan β → Prop
  | done {r : Except Error α} {r' : Except Error β} (results : AlikeResults V r r') : Alike V (.done r) (.done r')
  | call {c d : Call} {next : Except Error c.Answer → Plan α} {next' : Except Error d.Answer → Plan β}
      (calls : c.Alike d)
      (rest : ∀ answer answer', Exchange.Alike ⟨c, answer⟩ ⟨d, answer'⟩ → Alike V (next answer) (next' answer')) :
      Alike V (.call c next) (.call d next')

theorem AlikeResults.eq {r r' : Except Error α} (h : AlikeResults (· = ·) r r') : r = r' := by
  cases h with
  | ok values => rw [values]
  | error e => rfl

theorem alike_fail (V : α → β → Prop) (e : Error) : Alike V (fail e) (fail e) := .done (.error e)

theorem alike_pure (x : α) : Alike (· = ·) (pure x : Plan α) (pure x) := .done (.ok rfl)

theorem alike_ofExcept (x : Except Error α) : Alike (· = ·) (ofExcept x) (ofExcept x) := by
  cases x with
  | error e => exact .done (.error e)
  | ok x => exact .done (.ok rfl)

/-- **Plans in two parts are alike** if their first parts are, and their second parts for alike values of the first. -/
theorem Alike.bind {V : α → β → Prop} {W : γ → δ → Prop} {p : Plan α} {p' : Plan β} {f : α → Plan γ} {f' : β → Plan δ}
    (first : Alike V p p') (second : ∀ x y, V x y → Alike W (f x) (f' y)) : Alike W (p >>= f) (p' >>= f') := by
  show Alike W (p.bind f) (p'.bind f')
  induction first with
  | done results =>
    cases results with
    | ok values => exact second _ _ values
    | error e => exact .done (.error e)
  | call calls _ ih => exact .call calls fun answer answer' h => ih answer answer' h

theorem alike_perform {c d : Call} {V : c.Answer → d.Answer → Prop} (calls : c.Alike d)
    (answers : ∀ answer answer', Exchange.Alike ⟨c, answer⟩ ⟨d, answer'⟩ → AlikeResults V answer answer') :
    Alike V (perform c) (perform d) := .call calls fun answer answer' h => .done (answers answer answer' h)

theorem alike_each {f : β → Plan Unit} (h : ∀ x, Alike (· = ·) (f x) (f x)) :
    ∀ elements, Alike (· = ·) (each f elements) (each f elements)
  | [] => alike_pure ()
  | x :: elements => (h x).bind fun _ _ _ => alike_each h elements

/-! ## Runs -/

/-- Backends that answer alike calls alike, and are then in states that are alike again. -/
def InStep (R : σ → τ → Prop) (backend : Backend σ) (backend' : Backend τ) : Prop :=
  ∀ c d s t, Call.Alike c d → R s t →
    Exchange.Alike ⟨c, (backend c s).1⟩ ⟨d, (backend' d t).1⟩ ∧ R (backend c s).2 (backend' d t).2

/-- What cannot be told apart in two runs: the calls but for their passwords, and the results. -/
structure AlikeOutcomes (R : σ → τ → Prop) (o : Outcome σ α) (o' : Outcome τ α) : Prop where
  calls : List.Forall₂ Call.Alike o.calls o'.calls
  result : o.result = o'.result
  states : R o.state o'.state

/-- **Alike plans stay in step** on backends that do. -/
theorem Alike.run {R : σ → τ → Prop} {backend : Backend σ} {backend' : Backend τ} {p p' : Plan α} {s : σ} {t : τ}
    (plans : Alike (· = ·) p p') (inStep : InStep R backend backend') (states : R s t) :
    AlikeOutcomes R (p.run backend s) (p'.run backend' t) := by
  induction plans generalizing s t with
  | done results => exact ⟨.nil, results.eq, states⟩
  | call calls _ ih =>
    obtain ⟨answers, states⟩ := inStep _ _ s t calls states
    obtain ⟨calls', result, states⟩ := ih _ _ answers states
    exact ⟨.cons calls calls', result, states⟩

end Plan
end SearchDomain
