import SearchDomain.Proofs.Exchange
import SearchDomain.Rotation
/-!
# Course — the courses that a rotation event can take

For each step the calls it makes, in order, and how its result comes from their answers, whoever gives them. Later
proofs read a run off these courses and do not open the steps again.
-/
namespace SearchDomain.Rotation

open Plan

variable {exclude secret token : String} {selector : Selector} {description : Description} {event : RotationEvent}
  {xs : List Exchange} {r : Except Error Unit}

/-- The credential in what was answered to a search for it. -/
def credentialIn (secret : String) (selector : Selector) : Except Error (Option SecretValue) → Except Error Credential
  | .error e => .error e
  | .ok none => .error (.secretAccess secret ("no secret version matches " ++ selector.describe))
  | .ok (some value) => Credential.ofSecret secret value.text

theorem credentialIn_ok {answer : Except Error (Option SecretValue)} {credential : Credential}
    (h : credentialIn secret selector answer = .ok credential) :
    ∃ value, answer = .ok (some value) ∧ Credential.ofSecret secret value.text = .ok credential := by
  unfold credentialIn at h
  split at h
  · cases h
  · cases h
  · rename_i value
    exact ⟨value, rfl, h⟩

theorem yields_requireSecret_iff {r : Except Error Credential} :
    Yields (requireSecret secret selector) xs r ↔
      ∃ answer, xs = [⟨.getSecretValue secret selector, answer⟩] ∧ r = credentialIn secret selector answer := by
  constructor
  · intro h
    rcases yields_perform_bind_iff.1 h with ⟨e, rfl, rfl⟩ | ⟨found, zs, rfl, hf⟩
    · exact ⟨.error e, rfl, rfl⟩
    · cases found with
      | none =>
        obtain ⟨rfl, rfl⟩ := yields_fail_iff.1 hf
        exact ⟨.ok none, rfl, rfl⟩
      | some value =>
        obtain ⟨rfl, rfl⟩ := yields_ofExcept_iff.1 hf
        exact ⟨.ok (some value), rfl, rfl⟩
  · rintro ⟨answer, rfl, rfl⟩
    refine yields_perform_bind_iff.2 ?_
    match answer with
    | .error e => exact .inl ⟨e, rfl, rfl⟩
    | .ok none => exact .inr ⟨none, [], rfl, yields_fail_iff.2 ⟨rfl, rfl⟩⟩
    | .ok (some value) => exact .inr ⟨some value, [], rfl, yields_ofExcept_iff.2 ⟨rfl, rfl⟩⟩

/-- A step that needs the credential in a version ends where there is none, and else goes on with it. -/
theorem yields_requireSecret_bind {rest : Credential → Plan Unit}
    (h : Yields (requireSecret secret selector >>= rest) xs r) :
    ∃ answer, (∃ e, credentialIn secret selector answer = .error e ∧
        xs = [⟨.getSecretValue secret selector, answer⟩] ∧ r = .error e) ∨
      ∃ credential zs, credentialIn secret selector answer = .ok credential ∧
        xs = ⟨.getSecretValue secret selector, answer⟩ :: zs ∧ Yields (rest credential) zs r := by
  rcases yields_bind_iff.1 h with ⟨e, h₁, rfl⟩ | ⟨credential, ys, zs, h₁, h₂, rfl⟩
  · obtain ⟨answer, rfl, he⟩ := yields_requireSecret_iff.1 h₁
    exact ⟨answer, .inl ⟨e, he.symm, rfl, rfl⟩⟩
  · obtain ⟨answer, rfl, hc⟩ := yields_requireSecret_iff.1 h₁
    exact ⟨answer, .inr ⟨credential, zs, hc.symm, rfl, h₂⟩⟩

/-- The courses of making a password. Each is cut short by the first answer that is no help. -/
inductive CreateCourse (exclude secret token : String) : List Exchange → Except Error Unit → Prop
  | unread {answer : Except Error (Option SecretValue)} {e : Error}
      (read : credentialIn secret (.stage .current) answer = .error e) :
      CreateCourse exclude secret token [⟨.getSecretValue secret (.stage .current), answer⟩] (.error e)
  | unsought {answer : Except Error (Option SecretValue)} {current : Credential} {e : Error}
      (read : credentialIn secret (.stage .current) answer = .ok current) :
      CreateCourse exclude secret token
        [⟨.getSecretValue secret (.stage .current), answer⟩, ⟨.getSecretValue secret (pendingVersion token), .error e⟩]
        (.error e)
  | kept {answer : Except Error (Option SecretValue)} {current : Credential} {value : SecretValue}
      (read : credentialIn secret (.stage .current) answer = .ok current) :
      CreateCourse exclude secret token
        [⟨.getSecretValue secret (.stage .current), answer⟩,
          ⟨.getSecretValue secret (pendingVersion token), .ok (some value)⟩] (.ok ())
  | ungenerated {answer : Except Error (Option SecretValue)} {current : Credential} {e : Error}
      (read : credentialIn secret (.stage .current) answer = .ok current) :
      CreateCourse exclude secret token
        [⟨.getSecretValue secret (.stage .current), answer⟩, ⟨.getSecretValue secret (pendingVersion token), .ok none⟩,
          ⟨.getRandomPassword exclude, .error e⟩] (.error e)
  | put {answer : Except Error (Option SecretValue)} {current : Credential} {password : String} {r : Except Error Unit}
      (read : credentialIn secret (.stage .current) answer = .ok current) :
      CreateCourse exclude secret token
        [⟨.getSecretValue secret (.stage .current), answer⟩, ⟨.getSecretValue secret (pendingVersion token), .ok none⟩,
          ⟨.getRandomPassword exclude, .ok password⟩,
          ⟨.putSecretValue secret token ({ username := current.username, password } : Credential).toText .pending, r⟩] r

/-- **The courses of making a password** are those listed. -/
theorem yields_createSecret (h : Yields (createSecret exclude secret token) xs r) :
    CreateCourse exclude secret token xs r := by
  obtain ⟨answer, ⟨e, hc, rfl, rfl⟩ | ⟨current, zs, hc, rfl, h₂⟩⟩ := yields_requireSecret_bind h
  · exact .unread hc
  rcases yields_perform_bind_iff.1 h₂ with ⟨e, rfl, rfl⟩ | ⟨found, ws, rfl, h₃⟩
  · exact .unsought hc
  cases found with
  | some value =>
    obtain ⟨rfl, rfl⟩ := yields_pure_iff.1 h₃
    exact .kept hc
  | none =>
    rcases yields_perform_bind_iff.1 h₃ with ⟨e, rfl, rfl⟩ | ⟨password, vs, rfl, h₄⟩
    · exact .ungenerated hc
    rcases yields_perform_bind_iff.1 h₄ with ⟨e, rfl, rfl⟩ | ⟨⟨⟩, us, rfl, h₅⟩
    · exact .put hc
    · obtain ⟨rfl, rfl⟩ := yields_pure_iff.1 h₅
      exact .put hc

/-- The result of a request that has to be a success. -/
def settled (context : String) : Except Error DomainApi.Response → Except Error Unit
  | .error e => .error e
  | .ok response => (response.ensureSuccess context).map fun _ => ()

theorem settled_ok {context : String} {answer : Except Error DomainApi.Response} (h : settled context answer = .ok ()) :
    ∃ response, answer = .ok response ∧ response.isSuccess = true := by
  cases answer with
  | error e => cases h
  | ok response =>
    refine ⟨response, rfl, ?_⟩
    unfold settled DomainApi.Response.ensureSuccess at h
    by_cases hs : response.isSuccess = true
    · exact hs
    · simp only [if_neg hs] at h
      cases h

theorem settled_success {context : String} {response : DomainApi.Response} (h : response.isSuccess = true) :
    settled context (.ok response) = .ok () := by
  unfold settled DomainApi.Response.ensureSuccess
  simp only [if_pos h]
  rfl

theorem settled_error {context : String} {response : DomainApi.Response} {e : Error}
    (h : settled context (.ok response) = .error e) : response.isSuccess ≠ true := by
  intro hs
  unfold settled DomainApi.Response.ensureSuccess at h
  simp only [if_pos hs] at h
  cases h

theorem yields_ensureSuccess {context : String} {response : DomainApi.Response}
    (h : Yields (ofExcept (response.ensureSuccess context) >>= fun _ => pure ()) xs r) :
    xs = [] ∧ r = settled context (.ok response) := by
  have hs : settled context (.ok response) = (response.ensureSuccess context).map fun _ => () := rfl
  rcases yields_bind_iff.1 h with ⟨e, h₁, rfl⟩ | ⟨x, ys, zs, h₁, h₂, rfl⟩
  · obtain ⟨rfl, he⟩ := yields_ofExcept_iff.1 h₁
    exact ⟨rfl, by rw [hs, ← he]; rfl⟩
  · obtain ⟨rfl, he⟩ := yields_ofExcept_iff.1 h₁
    obtain ⟨rfl, rfl⟩ := yields_pure_iff.1 h₂
    exact ⟨rfl, by rw [hs, ← he]; rfl⟩

/-- The request that gives a user a password. -/
def passwordRequest (credential : Credential) : DomainApi.Request where
  method := .patch
  path := DomainApi.Path.internalUser credential.username
  body := .json (passwordPatch credential.password)

/-- **Pushing the pending password** reads it and sends it. -/
theorem yields_setSecret (h : Yields (setSecret secret token) xs r) :
    ∃ answer, (∃ e, credentialIn secret (pendingVersion token) answer = .error e ∧
        xs = [⟨.getSecretValue secret (pendingVersion token), answer⟩] ∧ r = .error e) ∨
      ∃ credential reply, credentialIn secret (pendingVersion token) answer = .ok credential ∧
        xs = [⟨.getSecretValue secret (pendingVersion token), answer⟩, ⟨.send (passwordRequest credential), reply⟩] ∧
        r = settled ("rotation " ++ credential.username ++ " password") reply := by
  obtain ⟨answer, read | ⟨pending, zs, hp, rfl, h₂⟩⟩ := yields_requireSecret_bind h
  · exact ⟨answer, .inl read⟩
  refine ⟨answer, .inr ⟨pending, ?_⟩⟩
  rcases yields_perform_bind_iff.1 h₂ with ⟨e, rfl, rfl⟩ | ⟨response, ws, rfl, h₃⟩
  · exact ⟨.error e, hp, rfl, rfl⟩
  · obtain ⟨rfl, rfl⟩ := yields_ensureSuccess h₃
    exact ⟨.ok response, hp, rfl, rfl⟩

/-- **Trying the pending password** reads it and asks the domain about it. -/
theorem yields_testSecret (h : Yields (testSecret secret token) xs r) :
    ∃ answer, (∃ e, credentialIn secret (pendingVersion token) answer = .error e ∧
        xs = [⟨.getSecretValue secret (pendingVersion token), answer⟩] ∧ r = .error e) ∨
      ∃ credential reply, credentialIn secret (pendingVersion token) answer = .ok credential ∧
        xs = [⟨.getSecretValue secret (pendingVersion token), answer⟩,
          ⟨.authenticate credential.username credential.password, reply⟩] ∧
        r = settled ("authentication test of " ++ credential.username) reply := by
  obtain ⟨answer, read | ⟨pending, zs, hp, rfl, h₂⟩⟩ := yields_requireSecret_bind h
  · exact ⟨answer, .inl read⟩
  refine ⟨answer, .inr ⟨pending, ?_⟩⟩
  rcases yields_perform_bind_iff.1 h₂ with ⟨e, rfl, rfl⟩ | ⟨response, ws, rfl, h₃⟩
  · exact ⟨.error e, hp, rfl, rfl⟩
  · obtain ⟨rfl, rfl⟩ := yields_ensureSuccess h₃
    exact ⟨.ok response, hp, rfl, rfl⟩

/-- The courses of reading the pending credential and asking the domain something about it. -/
inductive AskCourse (secret token : String) (ask : Credential → Call) : List Exchange → Except Error Unit → Prop
  | unread {answer : Except Error (Option SecretValue)} {e : Error}
      (read : credentialIn secret (pendingVersion token) answer = .error e) :
      AskCourse secret token ask [⟨.getSecretValue secret (pendingVersion token), answer⟩] (.error e)
  | asked {answer : Except Error (Option SecretValue)} {credential : Credential} {x : Exchange} {r : Except Error Unit}
      (read : credentialIn secret (pendingVersion token) answer = .ok credential) (call : x.call = ask credential)
      (settled : x.smooth = true → r = .ok ()) :
      AskCourse secret token ask [⟨.getSecretValue secret (pendingVersion token), answer⟩, x] r

theorem askCourse_setSecret (h : Yields (setSecret secret token) xs r) :
    AskCourse secret token (fun credential => .send (passwordRequest credential)) xs r := by
  obtain ⟨answer, ⟨e, read, rfl, rfl⟩ | ⟨credential, reply, read, rfl, rfl⟩⟩ := yields_setSecret h
  · exact .unread read
  · refine .asked read rfl fun smooth => ?_
    cases reply with
    | error e => exact absurd smooth Exchange.not_smooth_error
    | ok response => exact settled_success smooth

theorem askCourse_testSecret (h : Yields (testSecret secret token) xs r) :
    AskCourse secret token (fun credential => .authenticate credential.username credential.password) xs r := by
  obtain ⟨answer, ⟨e, read, rfl, rfl⟩ | ⟨credential, reply, read, rfl, rfl⟩⟩ := yields_testSecret h
  · exact .unread read
  · refine .asked read rfl fun smooth => ?_
    cases reply with
    | error e => exact absurd smooth Exchange.not_smooth_error
    | ok response => exact settled_success smooth

/-- **Finishing** asks for one promotion, from the version that the description calls current, unless that is the
token already. -/
theorem yields_finishSecret (h : Yields (finishSecret secret token description) xs r) :
    description.current? = some token ∧ xs = [] ∧ r = .ok () ∨
      description.current? ≠ some token ∧ ∃ answer : Except Error Unit,
        xs = [⟨.promote secret token description.current?, answer⟩] ∧ r = answer := by
  unfold finishSecret at h
  simp only at h
  split at h
  · rename_i hc
    obtain ⟨rfl, rfl⟩ := yields_pure_iff.1 h
    exact .inl ⟨hc, rfl, rfl⟩
  · rename_i hc
    rcases yields_perform_bind_iff.1 h with ⟨e, rfl, rfl⟩ | ⟨⟨⟩, ys, rfl, h₁⟩
    · exact .inr ⟨hc, .error e, rfl, rfl⟩
    · obtain ⟨rfl, rfl⟩ := yields_pure_iff.1 h₁
      exact .inr ⟨hc, .ok (), rfl, rfl⟩

/-- The courses of an event: the gate before the step, and past it those of the step. -/
inductive Course (exclude : String) (event : RotationEvent) : List Exchange → Except Error Unit → Prop
  | unknown {e : Error} (step : event.step = .error e) : Course exclude event [] (.error e)
  | undescribed {step : RotationStep} {e : Error} (step_eq : event.step = .ok step) :
      Course exclude event [⟨.describeSecret event.secret, .error e⟩] (.error e)
  | refused {step : RotationStep} {description : Description} {reason : String} (step_eq : event.step = .ok step)
      (gate_eq : gate event.secret event.token description = .refused reason) :
      Course exclude event [⟨.describeSecret event.secret, .ok description⟩] (.error (.invalidRotationState reason))
  | finished {step : RotationStep} {description : Description} (step_eq : event.step = .ok step)
      (gate_eq : gate event.secret event.token description = .finished) :
      Course exclude event [⟨.describeSecret event.secret, .ok description⟩] (.ok ())
  | taken {step : RotationStep} {description : Description} {xs : List Exchange} {r : Except Error Unit}
      (step_eq : event.step = .ok step) (gate_eq : gate event.secret event.token description = .pending)
      (rest : Yields (takeStep exclude step event.secret event.token description) xs r) :
      Course exclude event (⟨.describeSecret event.secret, .ok description⟩ :: xs) r

/-- **Every event takes one of these courses.** -/
theorem course_of_yields (h : Yields (handle exclude event) xs r) : Course exclude event xs r := by
  rcases yields_bind_iff.1 h with ⟨e, h₁, rfl⟩ | ⟨step, ys, zs, h₁, h₂, rfl⟩
  · obtain ⟨rfl, he⟩ := yields_ofExcept_iff.1 h₁
    exact .unknown he.symm
  obtain ⟨rfl, hs⟩ := yields_ofExcept_iff.1 h₁
  rcases yields_perform_bind_iff.1 h₂ with ⟨e, rfl, rfl⟩ | ⟨description, ws, rfl, h₃⟩
  · exact .undescribed hs.symm
  split at h₃
  · rename_i reason hg
    obtain ⟨rfl, rfl⟩ := yields_fail_iff.1 h₃
    exact .refused hs.symm hg
  · rename_i hg
    obtain ⟨rfl, rfl⟩ := yields_pure_iff.1 h₃
    exact .finished hs.symm hg
  · rename_i hg
    exact .taken hs.symm hg h₃

end SearchDomain.Rotation
