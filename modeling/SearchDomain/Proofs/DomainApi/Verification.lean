import SearchDomain.Proofs.DomainApi.Place
import SearchDomain.Proofs.DomainApi.Prepared
import SearchDomain.Proofs.Signature.Verifier
/-!
# Verification — what is signed is what is sent

A request is signed over the text of its address and a list of headers, and sent to the URL that the text is, with
headers that are put together once more. For every place of the domain's API, whoever verifies the request as it
arrives comes to the canonical form, the string to sign and the signature that were made (`verified`). The services send
no other requests (`verified_of_called`).
-/
namespace SearchDomain.DomainApi.Client

open Http (Header Origin)
open Signature (AreOrdinary CanonicalRequest Credentials Scope Verifier)

variable {c : Client} {o : Origin} {p : Place} {moment : Moment} {request : Request} {r : Http.Request}
  {credentials : Credentials}

/-- The requests of the services have ordinary headers. -/
theorem ordinary_of_isService (service : IsService request) : AreOrdinary request.headers := by
  have dashboards : Header.lowerName Path.dashboardsHeader.1 ∉ Signature.reserved := by decide
  intro h hh
  rw [service.2 h hh]
  exact dashboards

/-- What a request is signed with, and that it goes out so. -/
theorem isSent_of_prepare (named : Http.Host.IsName o.host) (base : c.baseUrl.toList = o.text) (plain : p.IsPlain)
    (path : request.path = p.path) (ordinary : AreOrdinary request.headers) (fixed : c.credentials = .fixed credentials)
    (prepared : c.prepare moment request = .ok r) : ∃ target made,
      Signature.canonicalRequest? credentials.sessionToken moment.time request.method.name (c.url request.path)
        (ownHeaders moment request) (encodeBody moment.random request.body).2 = some made ∧
      Verifier.IsSent (ownHeaders moment request) credentials
        ⟨moment.time, c.region, signingService⟩ target made r := by
  obtain ⟨credentials', signed, url, fixed', hsigned, read, -, -, rfl⟩ := prepare_ok_iff.1 prepared
  cases fixed.symm.trans fixed'
  rw [Signature.signingHeaders?_eq] at hsigned
  obtain ⟨made, hmade, rfl⟩ := Option.map_eq_some_iff.1 hsigned
  have all := ordinary_ownHeaders moment ordinary
  obtain ⟨target, htarget, sendable, -, hm⟩ := (Signature.canonicalRequest?_eq_some_iff all).1 hmade
  have final := Place.isFinal plain
  unfold Http.Url.parse? at read
  rw [path, url_toList base p.relative, p.path_eq] at read htarget
  obtain rfl := Origin.url_eq named final read
  obtain rfl := Origin.target_eq named final htarget
  have bare : withoutCredentials (o.url p.segments p.query) = (o.url p.segments p.query, []) := rfl
  rw [bare]
  exact ⟨o.target p.segments p.query, made, hmade, {
    ordinary := all
    sendable := sendable
    signed := hm
    path := rfl
    query := rfl
    host := (Origin.hostHeader_eq named).symm
    noBlank := Origin.noBlank_hostHeader named
    headers := rfl }⟩

theorem exists_contentType (moment : Moment) (nonempty : request.body ≠ .empty) :
    ∃ value, ("content-type", value) ∈ ownHeaders moment request := by
  unfold ownHeaders
  cases hbody : request.body with
  | empty => exact absurd hbody nonempty
  | json document => exact ⟨_, List.mem_append_right _ List.mem_cons_self⟩
  | file name content => exact ⟨_, List.mem_append_right _ List.mem_cons_self⟩

/-- A request is verified as it arrives: what is found is what was made, and every header that matters is signed. -/
structure Verified (request : Request) (credentials : Credentials) (scope : Scope) (made : CanonicalRequest)
    (r : Http.Request) : Prop where
  canonical : Verifier.canonicalOf r = made
  stringToSign : Verifier.stringToSignOf ⟨credentials.secretKey, scope.region, scope.service⟩ r =
    Signature.stringToSign scope made
  signature : Verifier.signatureOf ⟨credentials.secretKey, scope.region, scope.service⟩ r =
    Signature.signature credentials.secretKey scope made
  accepted : Verifier.accepts ⟨credentials.secretKey, scope.region, scope.service⟩ r = true
  digest : Signature.joinedValue Signature.contentHashHeader (Verifier.received r) = CanonicalRequest.payloadHash r.body
  own : ∀ h ∈ request.headers, Header.lowerName h.1 ∈ Verifier.claimedNames (Verifier.claimOf r)
  content : request.body ≠ .empty → "content-type" ∈ Verifier.claimedNames (Verifier.claimOf r)
  added : "host" ∈ Verifier.claimedNames (Verifier.claimOf r) ∧
    Signature.dateHeader ∈ Verifier.claimedNames (Verifier.claimOf r) ∧
    Signature.contentHashHeader ∈ Verifier.claimedNames (Verifier.claimOf r) ∧
    ∀ t ∈ credentials.sessionToken, Signature.tokenHeader ∈ Verifier.claimedNames (Verifier.claimOf r)

/-- A request that goes out as it was signed is verified, if the token is written as it is read. -/
theorem verified_of_isSent {target : Http.Target} {made : CanonicalRequest}
    (sent : Verifier.IsSent (ownHeaders moment request) credentials
      ⟨moment.time, c.region, signingService⟩ target made r)
    (normal : ∀ t ∈ credentials.sessionToken, Signature.normalValue t = t) :
    Verified request credentials ⟨moment.time, c.region, signingService⟩ made r := by
  have same := sent.canonicalOf_eq_iff.2 normal
  obtain ⟨text, signature⟩ :=
    sent.signature_eq (v := ⟨credentials.secretKey, c.region, signingService⟩) rfl rfl rfl same
  refine {
    canonical := same
    stringToSign := text
    signature := signature
    accepted := sent.accepts_eq rfl rfl rfl same
    digest := sent.contentHash_eq
    own := fun h hh => sent.mem_claimedNames_own (List.mem_append_left _ hh)
    content := fun nonempty => ?_
    added := sent.mem_claimedNames_added }
  obtain ⟨value, hh⟩ := exists_contentType moment nonempty
  have content : Header.lowerName "content-type" = "content-type" := by decide
  rw [← content]
  exact sent.mem_claimedNames_own hh

/-- **What is signed is what is sent.** Whatever the method, the body and the moment, a request to a place of the API
that leaves a client can be verified as it arrives, if there are no blanks too many in the session token. -/
theorem verified (named : Http.Host.IsName o.host) (base : c.baseUrl.toList = o.text) (plain : p.IsPlain)
    (path : request.path = p.path) (ordinary : AreOrdinary request.headers) (fixed : c.credentials = .fixed credentials)
    (normal : ∀ t ∈ credentials.sessionToken, Signature.normalValue t = t)
    (prepared : c.prepare moment request = .ok r) :
    ∃ made, Signature.canonicalRequest? credentials.sessionToken moment.time request.method.name (c.url request.path)
        (ownHeaders moment request) (encodeBody moment.random request.body).2 = some made ∧
      Verified request credentials ⟨moment.time, c.region, signingService⟩ made r := by
  obtain ⟨target, made, hmade, sent⟩ := isSent_of_prepare named base plain path ordinary fixed prepared
  exact ⟨made, hmade, verified_of_isSent sent normal⟩

/-- **Every request of a service is verified.** Whatever the event and the answers are, each request among the calls of
a rotation or of the bootstrap goes to a place of the API, and if no name in its path is a step, it is verified as it
arrives. -/
theorem verified_of_called {σ : Type} {backend : Plan.Backend σ} {s : σ} {exclude source : String}
    {parameters : Bootstrap.Parameters}
    (called : .send request ∈ ((Rotation.handleText exclude source).run backend s).calls ∨
      .send request ∈ ((Bootstrap.handleText parameters source).run backend s).calls)
    (named : Http.Host.IsName o.host) (base : c.baseUrl.toList = o.text) (fixed : c.credentials = .fixed credentials)
    (normal : ∀ t ∈ credentials.sessionToken, Signature.normalValue t = t) :
    ∃ p : Place, request.path = p.path ∧
      ∀ {moment r}, p.IsPlain → c.prepare moment request = .ok r → ∃ made,
        Signature.canonicalRequest? credentials.sessionToken moment.time request.method.name (c.url request.path)
          (ownHeaders moment request) (encodeBody moment.random request.body).2 = some made ∧
        Verified request credentials ⟨moment.time, c.region, signingService⟩ made r := by
  have service : IsService request := called.elim
    (Rotation.sends_handleText exclude source).of_mem_calls (Bootstrap.sends_handleText parameters source).of_mem_calls
  obtain ⟨p, path⟩ := service.1
  refine ⟨p, path, fun plain prepared => ?_⟩
  obtain ⟨target, made, hmade, sent⟩ :=
    isSent_of_prepare named base plain path (ordinary_of_isService service) fixed prepared
  exact ⟨made, hmade, verified_of_isSent sent normal⟩

/-! ## A request with a session token -/

def domain : Origin := ⟨.https, "search.example.com".toList, some 9200⟩

/-- A client with credentials of a session. -/
def inSession (token : String) : Client where
  baseUrl := String.ofList domain.text
  region := "eu-west-1"
  credentials := .fixed { accessKey := "AKIDEXAMPLE", secretKey := "secret", sessionToken := some token }

/-- The upload of a file with nothing to import. -/
def upload : Request :=
  Request.withFile ⟨.post, Path.savedObjectsImport, [Path.dashboardsHeader], .empty⟩ "objects.ndjson" "{}"

theorem named_domain : Http.Host.IsName domain.host :=
  ⟨List.all_eq_true.1 (by decide), 'c', "om".toList, by decide, by decide⟩

theorem ordinary_upload : AreOrdinary upload.headers :=
  ordinary_of_isService ⟨⟨.savedObjectsImport, rfl⟩, fun _ hh => List.mem_singleton.1 hh⟩

theorem upload_prepared (token : String) (valid : Header.isValue token.toList = true) :
    ∃ r, (inSession token).prepare ⟨⟨1440938160⟩, "0"⟩ upload = .ok r := by
  have own : ∀ h ∈ ownHeaders ⟨⟨1440938160⟩, "0"⟩ upload, Header.isSendable h = true ∧
      Header.isSendable (Signature.normal h) = true := by decide
  have spelled :
      (Http.Target.ofChars? (Endpoint.url (String.ofList domain.text) upload.path).toList).isSome = true := by
    decide +kernel
  have read : Http.Url.parse? (Endpoint.url (String.ofList domain.text) upload.path) =
      some (domain.url Place.savedObjectsImport.segments Place.savedObjectsImport.query) := by decide +kernel
  have writable : (Http.Target.ofChars? (withoutCredentials
      (domain.url Place.savedObjectsImport.segments Place.savedObjectsImport.query)).1.write).isSome = true := by
    decide +kernel
  have key : Header.isValue "AKIDEXAMPLE".toList = true := by decide
  have region : Header.isValue "eu-west-1".toList = true := by decide
  obtain ⟨target, htarget⟩ := Option.isSome_iff_exists.1 spelled
  obtain ⟨r, prepared, -⟩ := prepared_of_sendable (c := inSession token) rfl ordinary_upload key region
    (fun t ht => Option.some.inj ht ▸ valid) own htarget read writable
  exact ⟨r, prepared⟩

theorem verified_upload :
    ∃ r made, (inSession "FwoGZXIvYXdzEBYaDHqa").prepare ⟨⟨1440938160⟩, "0"⟩ upload = .ok r ∧
      Verified upload ⟨"AKIDEXAMPLE", "secret", some "FwoGZXIvYXdzEBYaDHqa"⟩
        ⟨⟨1440938160⟩, "eu-west-1", signingService⟩ made r := by
  obtain ⟨r, prepared⟩ := upload_prepared "FwoGZXIvYXdzEBYaDHqa" (by decide)
  have base : (inSession "FwoGZXIvYXdzEBYaDHqa").baseUrl.toList = domain.text := by decide
  have normal : ∀ t ∈ some "FwoGZXIvYXdzEBYaDHqa", Signature.normalValue t = t := by decide
  obtain ⟨made, -, h⟩ :=
    verified (p := .savedObjectsImport) named_domain base trivial rfl ordinary_upload rfl normal prepared
  exact ⟨r, made, prepared, h⟩

/-- Two blanks in a row in a session token are signed as two, while they are verified as one. -/
theorem blanks_not_verified :
    ∃ r made, (inSession "a  b").prepare ⟨⟨1440938160⟩, "0"⟩ upload = .ok r ∧
      Signature.canonicalRequest? (some "a  b") ⟨1440938160⟩ "POST" ((inSession "a  b").url upload.path)
        (ownHeaders ⟨⟨1440938160⟩, "0"⟩ upload) (encodeBody "0" upload.body).2 = some made ∧
      Verifier.canonicalOf r ≠ made := by
  obtain ⟨r, prepared⟩ := upload_prepared "a  b" (by decide)
  have base : (inSession "a  b").baseUrl.toList = domain.text := by decide
  obtain ⟨target, made, hmade, sent⟩ := isSent_of_prepare (p := .savedObjectsImport) named_domain base trivial rfl
    ordinary_upload rfl prepared
  refine ⟨r, made, prepared, hmade, fun same => ?_⟩
  have normal := sent.canonicalOf_eq_iff.1 same "a  b" rfl
  exact absurd normal (by decide)

end SearchDomain.DomainApi.Client
