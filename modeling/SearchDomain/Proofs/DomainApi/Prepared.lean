import SearchDomain.DomainApi.Client
import SearchDomain.Proofs.Json.Values
import SearchDomain.Proofs.Signature.Signing
/-!
# Prepared — what a client makes of a request

A request is prepared if it can be signed and its address can be read and written; then it goes out with the headers
of the request, of its body and of the signature (`prepare_ok_iff`). A request with headers of its own that can be sent
is prepared whenever its address can be read (`prepared_of_sendable`).
-/
namespace SearchDomain.DomainApi.Client

open Http (Header Target)
open Text.Utf8 (Bytes)

variable {c : Client} {moment : Moment} {request : Request} {r : Http.Request} {method text : String}
  {headers : List Header} {body : Bytes} {url : Http.Url}

/-- The headers of a request and of its body. -/
def ownHeaders (moment : Moment) (request : Request) : List Header :=
  request.headers ++ (encodeBody moment.random request.body).1

theorem sign_ok_iff {time : Timestamp} {signed : List Header} :
    c.sign time method text headers body = .ok signed ↔ ∃ credentials, c.credentials = .fixed credentials ∧
      Signature.signingHeaders? credentials ⟨time, c.region, signingService⟩ method text headers body =
        some signed := by
  unfold sign
  cases hc : c.credentials with
  | failing reason =>
    constructor
    · intro h
      cases h
    · rintro ⟨_, h, -⟩
      cases h
  | fixed credentials =>
    show ((pure credentials : Except Error Signature.Credentials) >>= _) = .ok signed ↔ _
    rw [pure_bind]
    cases hs : Signature.signingHeaders? credentials ⟨time, c.region, signingService⟩ method text headers body with
    | none =>
      constructor
      · intro h
        cases h
      · rintro ⟨_, fixed, h⟩
        cases fixed
        cases hs.symm.trans h
    | some signed' =>
      constructor
      · intro h
        cases h
        exact ⟨credentials, rfl, hs⟩
      · rintro ⟨_, fixed, h⟩
        cases fixed
        cases hs.symm.trans h
        rfl

theorem address_ok_iff : address method text headers body = .ok r ↔ ∃ url, Http.Url.parse? text = some url ∧
    headers.all Header.isSendable = true ∧ (Target.ofChars? (withoutCredentials url).1.write).isSome = true ∧
    r = { method, url := (withoutCredentials url).1,
          headers := (withoutCredentials url).2 ++ lowerNames headers, body } := by
  unfold address
  cases hp : Http.Url.parse? text with
  | none => exact ⟨nofun, nofun⟩
  | some url =>
    simp only
    by_cases sendable : headers.all Header.isSendable = true
    · rw [if_neg (by simp [sendable])]
      cases ht : Target.ofChars? (withoutCredentials url).1.write with
      | none =>
        constructor
        · intro h
          cases h
        · rintro ⟨_, h, -, writable, -⟩
          cases h
          rw [ht] at writable
          cases writable
      | some target =>
        constructor
        · intro h
          cases h
          exact ⟨url, rfl, sendable, by rw [ht]; rfl, rfl⟩
        · rintro ⟨_, h, -, -, rfl⟩
          cases h
          rfl
    · rw [if_pos (by simpa using sendable)]
      constructor
      · intro h
        cases h
      · rintro ⟨_, -, h, -⟩
        exact absurd h sendable

/-- **When a request is prepared, and what it becomes.** -/
theorem prepare_ok_iff : c.prepare moment request = .ok r ↔ ∃ credentials signed url,
    c.credentials = .fixed credentials ∧
    Signature.signingHeaders? credentials ⟨moment.time, c.region, signingService⟩ request.method.name
      (c.url request.path)
      (ownHeaders moment request) (encodeBody moment.random request.body).2 = some signed ∧
    Http.Url.parse? (c.url request.path) = some url ∧
    (ownHeaders moment request ++ signed).all Header.isSendable = true ∧
    (Target.ofChars? (withoutCredentials url).1.write).isSome = true ∧
    r = { method := request.method.name, url := (withoutCredentials url).1
          headers := (withoutCredentials url).2 ++ lowerNames (ownHeaders moment request ++ signed)
          body := (encodeBody moment.random request.body).2 } := by
  have unfolded : c.prepare moment request = (c.sign moment.time request.method.name (c.url request.path)
      (ownHeaders moment request) (encodeBody moment.random request.body).2).bind fun signed =>
        (address request.method.name (c.url request.path) (ownHeaders moment request ++ signed)
          (encodeBody moment.random request.body).2).mapError unreached := rfl
  rw [unfolded]
  cases hs : c.sign moment.time request.method.name (c.url request.path) (ownHeaders moment request)
      (encodeBody moment.random request.body).2 with
  | error e =>
    constructor
    · intro h
      cases h
    · rintro ⟨credentials, signed, -, fixed, h, -⟩
      cases hs.symm.trans (sign_ok_iff.2 ⟨credentials, fixed, h⟩)
  | ok signed =>
    show (address request.method.name (c.url request.path) (ownHeaders moment request ++ signed) _).mapError unreached =
      .ok r ↔ _
    rw [Json.mapError_eq_ok_iff, address_ok_iff]
    obtain ⟨credentials, fixed, h⟩ := sign_ok_iff.1 hs
    constructor
    · rintro ⟨url, hp, sendable, writable, rfl⟩
      exact ⟨credentials, signed, url, fixed, h, hp, sendable, writable, rfl⟩
    · rintro ⟨credentials', signed', url, fixed', h', hp, sendable, writable, rfl⟩
      cases fixed.symm.trans fixed'
      cases h.symm.trans h'
      exact ⟨url, hp, sendable, writable, rfl⟩

theorem ordinary_ownHeaders (moment : Moment) (ordinary : Signature.AreOrdinary request.headers) :
    Signature.AreOrdinary (ownHeaders moment request) := by
  have content : Header.lowerName "content-type" ∉ Signature.reserved := by decide
  intro h hh
  obtain hh | hh := List.mem_append.1 hh
  · exact ordinary h hh
  · cases hbody : request.body with
    | empty =>
      rw [hbody] at hh
      cases hh
    | json document =>
      rw [hbody] at hh
      obtain rfl := List.mem_singleton.1 hh
      exact content
    | file name content =>
      rw [hbody] at hh
      obtain rfl := List.mem_singleton.1 hh
      assumption

/-- **A request that can be sent is prepared**, for the address that its path leads to. -/
theorem prepared_of_sendable {credentials : Signature.Credentials} {target : Target}
    (fixed : c.credentials = .fixed credentials) (ordinary : Signature.AreOrdinary request.headers)
    (key : Header.isValue credentials.accessKey.toList = true) (region : Header.isValue c.region.toList = true)
    (session : ∀ t ∈ credentials.sessionToken, Header.isValue t.toList = true)
    (own : ∀ h ∈ ownHeaders moment request, Header.isSendable h = true ∧ Header.isSendable (Signature.normal h) = true)
    (spelled : Target.ofChars? (c.url request.path).toList = some target)
    (read : Http.Url.parse? (c.url request.path) = some url)
    (writable : (Target.ofChars? (withoutCredentials url).1.write).isSome = true) :
    ∃ r, c.prepare moment request = .ok r ∧ r.url = (withoutCredentials url).1 := by
  have all := ordinary_ownHeaders moment ordinary
  have service : Header.isValue signingService.toList = true := by decide
  obtain ⟨made, hmade⟩ : ∃ made, Signature.canonicalRequest? credentials.sessionToken moment.time request.method.name
      (c.url request.path) (ownHeaders moment request) (encodeBody moment.random request.body).2 = some made :=
    ⟨_, (Signature.canonicalRequest?_eq_some_iff all).2 ⟨target, spelled, fun h hh => (own h hh).2, session, rfl⟩⟩
  have signed : Signature.signingHeaders? credentials ⟨moment.time, c.region, signingService⟩ request.method.name
      (c.url request.path) (ownHeaders moment request) (encodeBody moment.random request.body).2 =
      some (Signature.signedWith credentials ⟨moment.time, c.region, signingService⟩ made) := by
    rw [Signature.signingHeaders?_eq, hmade]
    rfl
  have sendable : (ownHeaders moment request ++
      Signature.signedWith credentials ⟨moment.time, c.region, signingService⟩ made).all Header.isSendable = true := by
    refine List.all_eq_true.2 fun h hh => ?_
    obtain hh | hh := List.mem_append.1 hh
    · exact (own h hh).1
    · exact Signature.isSendable_of_signed all key region service signed hh
  exact ⟨_, prepare_ok_iff.2 ⟨credentials, _, url, fixed, signed, read, sendable, writable, rfl⟩, rfl⟩

end SearchDomain.DomainApi.Client
