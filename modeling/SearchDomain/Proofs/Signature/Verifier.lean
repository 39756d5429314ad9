import SearchDomain.Http.Network
import SearchDomain.Proofs.Signature.Signing
import SearchDomain.Proofs.Text.Joined
/-!
# Verifier — the other side of a signature

A verifier knows the secret key, the region and the service, and sees a request as it arrives: method, address, headers
and body. It reads in the authorization which headers were signed, and builds the canonical form from these. That is
the form that was signed exactly if the session token is a normal value (`canonicalOf_eq_iff`), and then so are the
string to sign and the signature (`signature_eq`).
-/
namespace SearchDomain.Signature

open Http (Header)
open Http.Header (isSendable lowerName)
open Text.Utf8 (Bytes ofString)

/-- Whoever checks signatures of a region's service, made with a secret key. -/
structure Verifier where
  secretKey : String
  region : String
  service : String
  deriving DecidableEq, Repr

namespace Verifier

/-! ## Reading -/

/-- The parts of an authorization between its equality signs, the last one first: the signature comes last, and the
names before it. -/
def claims (authorization : String) : List (List Char) := (authorization.toList.splitOn '=').reverse

def claimedSignature (authorization : String) : String := String.ofList ((claims authorization).headD [])

def claimedNames (authorization : String) : List String :=
  ((((claims authorization).getD 1 []).takeWhile (· ≠ ',')).splitOn ';').map String.ofList

/-- The headers as they arrive, in normal form. The host comes with the connection. -/
def received (request : Http.Request) : List Header :=
  (("host", String.ofList request.url.authority) :: request.headers).map normal

/-- The authorization of a request as it is spelled. -/
def claimOf (request : Http.Request) : String := (Header.values "authorization" request.headers).headD ""

/-! ## Checking -/

/-- The canonical form of a request as it arrives. -/
def canonicalOf (request : Http.Request) : CanonicalRequest :=
  .ofParts request.method (Http.Url.writePath request.url.path) (request.url.query.getD [])
    (claimedNames (claimOf request)) (received request) (CanonicalRequest.payloadHash request.body)

def dateTimeOf (request : Http.Request) : String := joinedValue dateHeader (received request)

def dateOf (request : Http.Request) : String := String.ofList ((dateTimeOf request).toList.takeWhile (· ≠ 'T'))

def stringToSignOf (v : Verifier) (request : Http.Request) : String :=
  let scope := "/".intercalate [dateOf request, v.region, v.service, Scope.terminator]
  "\n".intercalate
    [Scope.algorithm, dateTimeOf request, scope, hexText (Digest.sha256 (ofString (canonicalOf request).text))]

def keyOf (v : Verifier) (request : Http.Request) : Bytes :=
  [dateOf request, v.region, v.service, Scope.terminator].foldl (fun key part => Digest.hmac key (ofString part))
    (ofString ("AWS4" ++ v.secretKey))

def signatureOf (v : Verifier) (request : Http.Request) : String :=
  hexText (Digest.hmac (v.keyOf request) (ofString (v.stringToSignOf request)))

/-- A request is accepted if it carries the digest of its body and the signature of its canonical form. -/
def accepts (v : Verifier) (request : Http.Request) : Bool :=
  joinedValue contentHashHeader (received request) = CanonicalRequest.payloadHash request.body &&
    claimedSignature (claimOf request) = v.signatureOf request

variable {headers : List Header} {credentials : Credentials} {scope : Scope} {names : List String}
  {name method url : String}
  {made : CanonicalRequest} {target : Http.Target} {request : Http.Request} {v : Verifier} {c : Char} {body : Bytes}

/-! ## The authorization -/

theorem isNameChar_of_mem_joined (each : ∀ n ∈ names, Header.isName n.toList = true)
    (hc : c ∈ List.intercalate [';'] (names.map String.toList)) : c = ';' ∨ Header.isNameChar c = true := by
  obtain hc | ⟨s, hs, hc⟩ := Text.mem_joined hc
  · exact .inl hc
  · obtain ⟨n, hn, rfl⟩ := List.mem_map.1 hs
    exact .inr (isNameChar_of_mem (each n hn) hc)

/-- **The names and the signature are found at the end of an authorization**, whatever stands before. -/
theorem claims_authorization (credentials : Credentials) (scope : Scope)
    (each : ∀ n ∈ names, Header.isName n.toList = true)
    (hnames : made.signedNames = ";".intercalate names) : ∃ front, claims (authorization credentials scope made) =
      (signature credentials.secretKey scope made).toList ::
        (List.intercalate [';'] (names.map String.toList) ++ ", Signature".toList) :: front := by
  have list : made.signedNames.toList = List.intercalate [';'] (names.map String.toList) := by
    rw [hnames, String.toList_intercalate]
    rfl
  have noNames : '=' ∉ List.intercalate [';'] (names.map String.toList) ++ ", Signature".toList := by
    intro h
    obtain h | h := List.mem_append.1 h
    · obtain he | h := isNameChar_of_mem_joined each h
      · cases he
      · exact (isNameChar_facts h).2.2.2.2 rfl
    · exact absurd h (by decide)
  have noSignature : '=' ∉ (signature credentials.secretKey scope made).toList := by
    unfold signature hexText
    rw [String.toList_ofList]
    exact fun h => (isValueChar_hex h).2.2 rfl
  have whole : (authorization credentials scope made).toList =
      (Scope.algorithm ++ " Credential=" ++ credentials.accessKey ++ "/" ++ scope.text ++ ", SignedHeaders").toList ++
        '=' :: ((List.intercalate [';'] (names.map String.toList) ++ ", Signature".toList) ++
          '=' :: (signature credentials.secretKey scope made).toList) := by
    have before : ", SignedHeaders=".toList = ", SignedHeaders".toList ++ ['='] := by decide
    have behind : ", Signature=".toList = ", Signature".toList ++ ['='] := by decide
    unfold authorization
    simp only [String.toList_append, list, before, behind, List.append_assoc, List.cons_append, List.nil_append]
  unfold claims
  rw [whole, List.splitOn_append_cons_self, List.splitOn_append_cons_self_of_not_mem noNames,
    List.splitOn_eq_singleton noSignature, List.reverse_append]
  exact ⟨_, rfl⟩

theorem claimedSignature_authorization (each : ∀ n ∈ names, Header.isName n.toList = true)
    (hnames : made.signedNames = ";".intercalate names) :
    claimedSignature (authorization credentials scope made) = signature credentials.secretKey scope made := by
  obtain ⟨front, h⟩ := claims_authorization credentials scope each hnames
  unfold claimedSignature
  rw [h, List.headD_cons, String.ofList_toList]

theorem claimedNames_authorization (each : ∀ n ∈ names, Header.isName n.toList = true) (nonempty : names ≠ [])
    (hnames : made.signedNames = ";".intercalate names) :
    claimedNames (authorization credentials scope made) = names := by
  obtain ⟨front, h⟩ := claims_authorization credentials scope each hnames
  have noComma : ∀ c ∈ List.intercalate [';'] (names.map String.toList), decide (c ≠ ',') = true := by
    intro c hc
    refine decide_eq_true ?_
    obtain rfl | hc := isNameChar_of_mem_joined each hc
    · decide
    · exact (isNameChar_facts hc).2.2.1
  have noSemicolon : ∀ s ∈ names.map String.toList, ';' ∉ s := by
    intro s hs hc
    obtain ⟨n, hn, rfl⟩ := List.mem_map.1 hs
    exact (isNameChar_facts (isNameChar_of_mem (each n hn) hc)).2.2.2.1 rfl
  have front : ", Signature".toList = ',' :: " Signature".toList := by decide
  unfold claimedNames
  rw [h]
  show (((List.intercalate [';'] (names.map String.toList) ++ ", Signature".toList).takeWhile
    (· ≠ ',')).splitOn ';').map String.ofList = names
  rw [List.takeWhile_append_of_pos noComma, front, List.takeWhile_cons_of_neg (by decide), List.append_nil,
    List.splitOn_intercalate ';' noSemicolon (by simpa using nonempty), List.map_map]
  refine (List.map_congr_left fun n _ => ?_).trans (List.map_id names)
  exact String.ofList_toList

/-! ## What arrives -/

/-- An added header has its name for itself. -/
theorem joinedValue_added {token : Option String} {time : Timestamp} {value host : String}
    (ordinary : AreOrdinary headers)
    (hh : (name, value) ∈ added token time host (CanonicalRequest.payloadHash body)) :
    joinedValue name (takingPart headers token time host body) = value := by
  have own : name ∈ addedNames := mem_addedNames hh
  have none : (headers.map normal).filter (·.1 = name) = [] := List.filter_eq_nil_iff.2 fun g hg => by
    simpa using ordinary.ne_of_mem (List.mem_append_left unsigned own) g hg
  have one : (takingPart headers token time host body).filter (·.1 = name) = [(name, value)] := by
    unfold takingPart
    rw [List.filter_append, none]
    obtain he | he | ⟨t, ht, he⟩ | he := mem_added_iff.1 hh <;> obtain ⟨rfl, rfl⟩ := Prod.mk.inj he
    · cases token <;> simp [added, dateHeader, tokenHeader, contentHashHeader]
    · cases token <;> simp [added, dateHeader, tokenHeader, contentHashHeader]
    · cases ht
      simp [added, dateHeader, tokenHeader, contentHashHeader]
    · cases token <;> simp [added, dateHeader, tokenHeader, contentHashHeader]
  unfold joinedValue
  rw [one]
  exact String.intercalate_singleton

/-- A request is signed, and goes out to the address and with the headers with which it was. -/
structure IsSent (headers : List Header) (credentials : Credentials) (scope : Scope) (target : Http.Target)
    (made : CanonicalRequest) (request : Http.Request) : Prop where
  ordinary : AreOrdinary headers
  sendable : ∀ h ∈ headers, isSendable (normal h) = true
  signed : made = .ofParts request.method target.path target.query
    (signedNames
      (takingPart headers credentials.sessionToken scope.time (String.ofList target.hostHeader) request.body))
    (takingPart headers credentials.sessionToken scope.time (String.ofList target.hostHeader) request.body)
    (CanonicalRequest.payloadHash request.body)
  path : Http.Url.writePath request.url.path = target.path
  query : request.url.query.getD [] = target.query
  host : request.url.authority = target.hostHeader
  noBlank : ' ' ∉ target.hostHeader
  headers : request.headers = (headers ++ signedWith credentials scope made).map fun h => (lowerName h.1, h.2)

theorem normal_of_small {value : String} (small : lowerName name = name) :
    normal (name, value) = (name, normalValue value) := by
  unfold normal
  rw [small]

theorem normal_eq {value : String} (small : lowerName name = name) (plain : ' ' ∉ value.toList) :
    normal (name, value) = (name, value) := by
  rw [normal_of_small small, normalValue_of_no_space plain]

theorem normal_lowered (h : Header) : normal (lowerName h.1, h.2) = normal h := by
  unfold normal
  rw [lowerName_lowerName]

namespace IsSent

variable (sent : IsSent headers credentials scope target made request)
include sent

/-- The headers that were signed arrive, and with them the authorization. -/
theorem received_eq : received request =
    ("host", String.ofList target.hostHeader) :: headers.map normal ++
      [(dateHeader, scope.time.dateTime), ("authorization", normalValue (authorization credentials scope made)),
        (contentHashHeader, CanonicalRequest.payloadHash request.body)] ++
      (credentials.sessionToken.map fun t => (tokenHeader, normalValue t)).toList := by
  have host : normal ("host", String.ofList target.hostHeader) = ("host", String.ofList target.hostHeader) := by
    refine normal_eq (by decide) ?_
    rw [String.toList_ofList]
    exact sent.noBlank
  have date : normal (dateHeader, scope.time.dateTime) = (dateHeader, scope.time.dateTime) :=
    normal_eq (by decide) fun h => (isValueChar_dateTime h).2 rfl
  have hash : normal (contentHashHeader, CanonicalRequest.payloadHash request.body) =
      (contentHashHeader, CanonicalRequest.payloadHash request.body) := by
    refine normal_eq (by decide) fun h => ?_
    unfold CanonicalRequest.payloadHash at h
    rw [String.toList_ofList] at h
    exact (isValueChar_hex h).2.1 rfl
  have authorized : normal ("authorization", authorization credentials scope made) =
      ("authorization", normalValue (authorization credentials scope made)) := normal_of_small (by decide)
  have session : ∀ t, normal (tokenHeader, t) = (tokenHeader, normalValue t) := fun t => normal_of_small (by decide)
  have lowered : normal ∘ (fun h : Header => (lowerName h.1, h.2)) = normal := funext normal_lowered
  have payload : made.payload = CanonicalRequest.payloadHash request.body := by
    rw [sent.signed]
    rfl
  unfold received
  rw [sent.headers, sent.host, List.map_cons, host, List.map_map, lowered, List.map_append]
  unfold signedWith
  rw [payload, List.map_append, List.map_cons, List.map_cons, List.map_cons, List.map_nil, date, hash, authorized]
  cases credentials.sessionToken with
  | none => simp
  | some t => simp [session]

/-- Under every name but that of the authorization arrives what was signed, up to blanks in the session token. -/
theorem joinedValue_received (other : name ≠ "authorization") :
    joinedValue name (received request) =
      joinedValue name (takingPart headers (credentials.sessionToken.map normalValue) scope.time
        (String.ofList target.hostHeader) request.body) := by
  unfold joinedValue
  rw [sent.received_eq]
  refine congrArg (fun l : List Header => ",".intercalate (List.map (·.2) l)) ?_
  unfold takingPart added
  by_cases own : name ∈ addedNames
  · have none : (headers.map normal).filter (·.1 = name) = [] := List.filter_eq_nil_iff.2 fun g hg => by
      simpa using sent.ordinary.ne_of_mem (List.mem_append_left unsigned own) g hg
    unfold addedNames at own
    simp only [List.mem_cons, List.not_mem_nil, or_false] at own
    rw [List.cons_append]
    simp only [List.cons_append, List.nil_append, List.filter_cons, List.filter_append, none]
    obtain rfl | rfl | rfl | rfl := own <;> cases credentials.sessionToken <;>
      simp [dateHeader, tokenHeader, contentHashHeader]
  · unfold addedNames at own
    simp only [List.mem_cons, List.not_mem_nil, or_false, not_or] at own
    obtain ⟨host, date, session, hash⟩ := own
    cases credentials.sessionToken <;> simp [Ne.symm host, Ne.symm date, Ne.symm session, Ne.symm hash, Ne.symm other]

/-- The authorization arrives as it was made. -/
theorem claimOf_eq : claimOf request = authorization credentials scope made := by
  have none : (headers.map fun h : Header => (lowerName h.1, h.2)).filter (lowerName ·.1 = "authorization") = [] := by
    refine List.filter_eq_nil_iff.2 fun g hg => ?_
    obtain ⟨h, hh, rfl⟩ := List.mem_map.1 hg
    have ordinary := sent.ordinary h hh
    rw [decide_eq_true_eq, lowerName_lowerName]
    intro he
    rw [he] at ordinary
    exact ordinary (by decide)
  have small : lowerName dateHeader = dateHeader ∧ lowerName contentHashHeader = contentHashHeader ∧
      lowerName tokenHeader = tokenHeader ∧ lowerName "authorization" = "authorization" := by decide
  obtain ⟨date, hash, session, authorized⟩ := small
  have apart : dateHeader ≠ "authorization" ∧ contentHashHeader ≠ "authorization" ∧ tokenHeader ≠ "authorization" := by
    decide
  have one : ((signedWith credentials scope made).map fun h : Header => (lowerName h.1, h.2)).filter
      (lowerName ·.1 = "authorization") = [("authorization", authorization credentials scope made)] := by
    unfold signedWith
    cases credentials.sessionToken <;> simp [date, hash, session, authorized, apart]
  unfold claimOf Header.values
  rw [sent.headers, List.map_append, List.filter_append, none, List.nil_append, one]
  rfl

theorem names_eq : made.signedNames = ";".intercalate (signedNames
    (takingPart headers credentials.sessionToken scope.time (String.ofList target.hostHeader) request.body)) := by
  rw [sent.signed, signedNames_ofParts]

/-- **The names in the authorization are those that were signed.** -/
theorem claimedNames_eq : claimedNames (claimOf request) = signedNames
    (takingPart headers credentials.sessionToken scope.time (String.ofList target.hostHeader) request.body) := by
  have host : "host" ∈ signedNames
      (takingPart headers credentials.sessionToken scope.time (String.ofList target.hostHeader) request.body) :=
    mem_signedNames_iff.2 ⟨⟨("host", String.ofList target.hostHeader), List.mem_append_right _ List.mem_cons_self, rfl⟩,
      by decide⟩
  rw [sent.claimOf_eq]
  exact claimedNames_authorization (fun n hn => isName_of_mem_signedNames sent.sendable hn) (List.ne_nil_of_mem host)
    sent.names_eq

/-- Every header of the request itself is signed. -/
theorem mem_claimedNames_own {h : Header} (hh : h ∈ headers) : lowerName h.1 ∈ claimedNames (claimOf request) := by
  rw [sent.claimedNames_eq]
  refine mem_signedNames_iff.2 ⟨⟨normal h, List.mem_append_left _ (List.mem_map_of_mem hh), rfl⟩, fun left => ?_⟩
  exact sent.ordinary h hh (List.mem_append_right addedNames left)

theorem mem_claimedNames_of_added {h : Header} (hh : h ∈ added credentials.sessionToken scope.time
    (String.ofList target.hostHeader) (CanonicalRequest.payloadHash request.body)) :
    h.1 ∈ claimedNames (claimOf request) := by
  have apart : ∀ name ∈ addedNames, name ∉ unsigned := by decide
  rw [sent.claimedNames_eq]
  exact mem_signedNames_iff.2 ⟨⟨h, List.mem_append_right _ hh, rfl⟩, apart h.1 (mem_addedNames hh)⟩

/-- The host, the time and the digest of the body are signed, and so is the session token. -/
theorem mem_claimedNames_added : "host" ∈ claimedNames (claimOf request) ∧ dateHeader ∈ claimedNames (claimOf request) ∧
    contentHashHeader ∈ claimedNames (claimOf request) ∧
    ∀ t ∈ credentials.sessionToken, tokenHeader ∈ claimedNames (claimOf request) := by
  refine ⟨sent.mem_claimedNames_of_added (mem_added_iff.2 (.inl rfl)),
    sent.mem_claimedNames_of_added (mem_added_iff.2 (.inr (.inl rfl))),
    sent.mem_claimedNames_of_added (mem_added_iff.2 (.inr (.inr (.inr rfl)))), fun t ht => ?_⟩
  exact sent.mem_claimedNames_of_added (mem_added_iff.2 (.inr (.inr (.inl ⟨t, ht, rfl⟩))))

/-- **A verifier finds the canonical form that was signed** exactly if there are no blanks too many in the session
token. -/
theorem canonicalOf_eq_iff : canonicalOf request = made ↔ ∀ t ∈ credentials.sessionToken, normalValue t = t := by
  have fields : canonicalOf request = made ↔
      ∀ name ∈ signedNames
          (takingPart headers credentials.sessionToken scope.time (String.ofList target.hostHeader) request.body),
        joinedValue name (takingPart headers (credentials.sessionToken.map normalValue) scope.time
          (String.ofList target.hostHeader) request.body) =
        joinedValue name (takingPart headers credentials.sessionToken scope.time
          (String.ofList target.hostHeader) request.body) := by
    unfold canonicalOf
    rw [sent.claimedNames_eq, sent.path, sent.query, sent.signed]
    simp only [CanonicalRequest.ofParts, CanonicalRequest.mk.injEq, true_and, and_true, List.map_inj_left,
      Prod.mk.injEq]
    refine forall₂_congr fun name hn => ?_
    have other : name ≠ "authorization" := by
      rintro rfl
      exact (mem_signedNames_iff.1 hn).2 (by decide)
    rw [sent.joinedValue_received other]
  rw [fields]
  constructor
  · intro same t ht
    rw [Option.mem_def] at ht
    rw [ht] at same
    have carried : ∀ t, (tokenHeader, t) ∈ added (some t) scope.time (String.ofList target.hostHeader)
        (CanonicalRequest.payloadHash request.body) := fun t => mem_added_iff.2 (.inr (.inr (.inl ⟨t, rfl, rfl⟩)))
    have named : tokenHeader ∈ signedNames
        (takingPart headers (some t) scope.time (String.ofList target.hostHeader) request.body) :=
      mem_signedNames_iff.2 ⟨⟨(tokenHeader, t), List.mem_append_right _ (carried t), rfl⟩, by decide⟩
    have value := same tokenHeader named
    rw [Option.map_some, joinedValue_added sent.ordinary (carried _),
      joinedValue_added sent.ordinary (carried _)] at value
    exact value
  · intro normal name _
    have kept : credentials.sessionToken.map normalValue = credentials.sessionToken := by
      cases ht : credentials.sessionToken with
      | none => rfl
      | some t => exact congrArg some (normal t ht)
    rw [kept]

theorem dateTimeOf_eq : dateTimeOf request = scope.time.dateTime := by
  unfold dateTimeOf
  rw [sent.joinedValue_received (by decide)]
  exact joinedValue_added sent.ordinary (mem_added_iff.2 (.inr (.inl rfl)))

theorem dateOf_eq : dateOf request = scope.time.date := by
  have digits : ∀ c ∈ scope.time.date.toList, decide (c ≠ 'T') = true := fun c hc =>
    decide_eq_true (isValueChar_of_isDigit (isDigit_of_mem_date hc)).2.2
  unfold dateOf
  rw [sent.dateTimeOf_eq]
  unfold Timestamp.dateTime
  simp only [String.toList_append, String.toList_ofList, List.cons_append]
  rw [List.takeWhile_append_of_pos digits, List.takeWhile_cons_of_neg (by decide), List.append_nil,
    String.ofList_toList]

/-- The digest that arrives is that of the body that arrives. -/
theorem contentHash_eq : joinedValue contentHashHeader (received request) =
    CanonicalRequest.payloadHash request.body := by
  rw [sent.joinedValue_received (by decide)]
  exact joinedValue_added sent.ordinary (mem_added_iff.2 (.inr (.inr (.inr rfl))))

/-- **The string to sign and the signature are found as well**, by a verifier of the same key and scope. -/
theorem signature_eq (region : v.region = scope.region) (service : v.service = scope.service)
    (key : v.secretKey = credentials.secretKey) (same : canonicalOf request = made) :
    v.stringToSignOf request = stringToSign scope made ∧
      v.signatureOf request = signature credentials.secretKey scope made := by
  have text : v.stringToSignOf request = stringToSign scope made := by
    unfold stringToSignOf stringToSign
    rw [sent.dateOf_eq, sent.dateTimeOf_eq, same, region, service]
    rfl
  refine ⟨text, ?_⟩
  unfold signatureOf signature
  rw [text]
  unfold keyOf signingKey
  rw [sent.dateOf_eq, region, service, key]

/-- Such a verifier accepts the request. -/
theorem accepts_eq (region : v.region = scope.region) (service : v.service = scope.service)
    (key : v.secretKey = credentials.secretKey) (same : canonicalOf request = made) : v.accepts request = true := by
  have claimed : claimedSignature (claimOf request) = signature credentials.secretKey scope made := by
    rw [sent.claimOf_eq]
    exact claimedSignature_authorization (fun n hn => isName_of_mem_signedNames sent.sendable hn) sent.names_eq
  unfold accepts
  rw [Bool.and_eq_true, decide_eq_true_eq, decide_eq_true_eq, sent.contentHash_eq, claimed,
    (sent.signature_eq region service key same).2]
  exact ⟨rfl, rfl⟩

end IsSent
end Verifier
end SearchDomain.Signature
