import SearchDomain.Credential
import SearchDomain.Proofs.DomainApi.OwnReply
import SearchDomain.Proofs.DomainApi.Place
import SearchDomain.Proofs.DomainApi.Prepared
import SearchDomain.Proofs.Text.Base64
import SearchDomain.Proofs.Text.Joined
/-!
# Probe — what a probe tells of a credential

A probe carries a name and a password as one text. A server cuts it at the first colon, and finds the two exactly if
there is none in the name. The header stays the same on every way that the replies lead the probe, unless it is left out
(`authorizations_redirected`). So a probe speaks for one credential alone among those without a colon in the name
(`probe_proves`). An endpoint that is an origin and no more adds nothing of its own (`Proves.alone_of_origin`).
-/
namespace SearchDomain.Http

variable {σ : Type} {rule : RedirectRule} {network : Network σ} {request next : Request} {reply : Reply}
  {headers : List Header}

/-- The same network with a list of all requests that are made. -/
def Network.noted (network : Network σ) : Network (σ × List Request) := fun request (s, made) =>
  ((network request s).1, (network request s).2, made ++ [request])

/-- The requests that are made begin with the first, and each of the others is one to which a reply redirected. -/
theorem made_follow {P : Request → Prop}
    (step : ∀ {r reply next}, P r → r.redirected? rule reply = some (.ok next) → P next) {left : Nat}
    (first : P request) (s : σ) (made : List Request) :
    ∃ more, (follow rule network.noted left request (s, made)).2.2 = made ++ request :: more ∧ ∀ r ∈ more, P r := by
  induction left generalizing request s made with
  | zero =>
    refine ⟨[], ?_, nofun⟩
    unfold follow Network.noted
    simp only
    cases (network request s).1 with
    | none => rfl
    | some reply =>
      simp only
      cases request.redirected? rule reply <;> rfl
  | succ left ih =>
    rw [follow]
    unfold Network.noted at ih ⊢
    simp only
    cases (network request s).1 with
    | none => exact ⟨[], rfl, nofun⟩
    | some reply =>
      simp only
      cases moves : request.redirected? rule reply with
      | none => exact ⟨[], rfl, nofun⟩
      | some next =>
        cases next with
        | error failure => exact ⟨[], rfl, nofun⟩
        | ok next =>
          obtain ⟨more, hmade, all⟩ := ih (step first moves) (network request s).2 (made ++ [request])
          refine ⟨next :: more, ?_, ?_⟩
          · rw [hmade, List.append_assoc, List.singleton_append]
          · exact List.forall_mem_cons.2 ⟨step first moves, all⟩

/-! ## Who a request speaks for -/

/-- The values of the headers that say who asks. -/
def Request.authorizations (request : Request) : List String := Header.values "authorization" request.headers

theorem Header.values_append {name : String} (headers others : List Header) :
    values name (headers ++ others) = values name headers ++ values name others := by
  unfold values
  rw [List.filter_append, List.map_append]

theorem Header.values_without {name : String} {names : List String} (other : name ∉ names) :
    values name (without names headers) = values name headers := by
  unfold values without
  rw [List.filter_filter]
  refine congrArg (List.map Prod.snd) (List.filter_congr fun h _ => ?_)
  by_cases hn : lowerName h.1 = name
  · simp [hn, other]
  · simp [hn]

theorem Header.values_without_of_mem {name : String} {names : List String} (own : name ∈ names) :
    values name (without names headers) = [] := by
  unfold values without
  rw [List.filter_filter, List.map_eq_nil_iff, List.filter_eq_nil_iff]
  intro h _ both
  simp only [Bool.and_eq_true, decide_eq_true_eq, Bool.not_eq_true', List.contains_eq_mem,
    decide_eq_false_iff_not] at both
  exact both.2 (both.1 ▸ own)

theorem authorizations_movedTo (request : Request) (url : Url) :
    (request.movedTo url).authorizations = request.authorizations ∨ (request.movedTo url).authorizations = [] := by
  have kept : "authorization" ∉ ["referer"] := by decide
  have added : Header.values "authorization" [("referer", request.url.asReferer)] = [] := by
    have name : Header.lowerName "referer" = "referer" := by decide
    unfold Header.values
    rw [List.map_eq_nil_iff, List.filter_eq_nil_iff]
    intro h hh
    rw [List.mem_singleton.1 hh]
    simp only [name]
    decide
  have sent : (request.movedTo url).authorizations = Header.values "authorization"
      (if request.url.sameOrigin url then request.headers else Header.without privateHeaders request.headers) := by
    unfold Request.movedTo Request.authorizations
    simp only
    split
    · exact Header.values_without kept
    · rw [Header.values_append, Header.values_without kept, added, List.append_nil]
  rw [sent]
  split
  · exact .inl rfl
  · exact .inr (Header.values_without_of_mem (by decide))

/-- **A request speaks for the same one wherever it is redirected**, or for no one. -/
theorem authorizations_redirected (moves : request.redirected? rule reply = some (.ok next)) :
    next.authorizations = request.authorizations ∨ next.authorizations = [] := by
  have get : request.asGet.authorizations = request.authorizations := Header.values_without (by decide)
  obtain ⟨url, rfl⟩ := next_of_redirected moves
  split
  · rw [← get]
    exact authorizations_movedTo request.asGet url
  · exact authorizations_movedTo request url

end SearchDomain.Http

namespace SearchDomain.DomainApi

open Http (Header Network Origin Target)
open Text.Utf8 (ofString)

variable {value text text' username password username' password' : String}

/-! ## Values of the basic scheme -/

/-- The value of a header that carries a text in the basic scheme. -/
def Carries (value text : String) : Prop :=
  ∃ digits bytes, value = "Basic " ++ String.ofList digits ∧ Text.Base64.decode digits = some bytes ∧
    Text.Utf8.decode bytes = .ok text

/-- The name before the first colon, and the password after it. -/
def cutAtColon (text : String) : Option (String × String) :=
  match text.toList.dropWhile (· ≠ ':') with
  | [] => none
  | _ :: password => some (String.ofList (text.toList.takeWhile (· ≠ ':')), String.ofList password)

theorem Carries.unique (h : Carries value text) (h' : Carries value text') : text = text' := by
  obtain ⟨digits, bytes, rfl, decoded, read⟩ := h
  obtain ⟨digits', bytes', same, decoded', read'⟩ := h'
  have toList := congrArg String.toList same
  simp only [String.toList_append, String.toList_ofList] at toList
  obtain rfl := List.append_cancel_left toList
  obtain rfl := Option.some.inj (decoded.symm.trans decoded')
  exact Except.ok.inj (read.symm.trans read')

theorem carries_basic (username password : String) :
    Carries (Client.basic username (some password)) (username ++ ":" ++ password) :=
  ⟨_, _, rfl, Text.Base64.decode_encode _, Text.Utf8.decode_ofString _⟩

/-- **A credential is found at the first colon exactly if there is none in the name.** -/
theorem cutAtColon_eq_iff (username password : String) :
    cutAtColon (username ++ ":" ++ password) = some (username, password) ↔ ':' ∉ username.toList := by
  have colon : ":".toList = [':'] := by decide
  have text : (username ++ ":" ++ password).toList = username.toList ++ ':' :: password.toList := by
    rw [String.toList_append, String.toList_append, colon, List.append_assoc, List.singleton_append]
  constructor
  · intro h hc
    unfold cutAtColon at h
    split at h
    · cases h
    · obtain ⟨hname, -⟩ := Prod.mk.inj (Option.some.inj h)
      rw [← hname, String.toList_ofList] at hc
      exact absurd rfl (of_decide_eq_true (List.all_eq_true.1 List.all_takeWhile ':' hc))
  · intro hc
    unfold cutAtColon
    rw [text, Text.dropWhile_ne_append hc, Text.takeWhile_ne_append hc]
    simp only [String.ofList_toList]

/-- Without colons in the names, what is carried is one credential. -/
theorem credential_eq_of_basic (plain : ':' ∉ username.toList) (plain' : ':' ∉ username'.toList)
    (same : Client.basic username (some password) = Client.basic username' (some password')) :
    username = username' ∧ password = password' := by
  have carried := carries_basic username password
  rw [same] at carried
  have cut := (cutAtColon_eq_iff username password).2 plain
  rw [carried.unique (carries_basic username' password'), (cutAtColon_eq_iff username' password').2 plain'] at cut
  obtain ⟨hname, hpassword⟩ := Prod.mk.inj (Option.some.inj cut)
  exact ⟨hname.symm, hpassword.symm⟩

namespace Client

variable {σ : Type} {c : Client} {network : Network σ} {request : Http.Request}

/-! ## The requests of a probe -/

/-- The requests that are made to probe a credential. -/
def probes (c : Client) (network : Network σ) (username password : String) (s : σ) : List Http.Request :=
  (c.authenticate network.noted username password (s, [])).2.2

/-- The address that is probed can be read, and written again. -/
def CanProbe (c : Client) : Prop :=
  ∃ url, Http.Url.parse? (c.url Path.authInfo) = some url ∧
    (Target.ofChars? (withoutCredentials url).1.write).isSome = true

/-- Whom the address itself speaks for: no one, unless the endpoint is configured with a name and a password. -/
def inAddress (c : Client) : List String :=
  ((Http.Url.parse? (c.url Path.authInfo)).map fun url =>
    Header.values "authorization" (withoutCredentials url).2).getD []

theorem isSendable_basic (username : String) (password : Option String) :
    Header.isSendable ("authorization", basic username password) = true := by
  have name : Header.isName "authorization".toList = true := by decide
  have scheme : "Basic ".toList.all Header.isValueChar = true := by decide
  have pad : Header.isValueChar '=' = true := by decide
  have digit : ∀ n < 64, Header.isValueChar (Text.Base64.digit n) = true := by decide
  have digits : ∀ bs : Text.Utf8.Bytes, (Text.Base64.encode bs).all Header.isValueChar = true := fun bs => by
    refine List.all_eq_true.2 fun c hc => ?_
    obtain rfl | ⟨n, hn, rfl⟩ := Text.Base64.mem_encode hc
    · exact pad
    · exact digit n hn
  unfold Header.isSendable
  rw [name, Bool.true_and]
  unfold Header.isValue basic
  simp only [String.toList_append, String.toList_ofList]
  rw [List.all_append, scheme, digits, Bool.and_self]

/-- **A probe is prepared for every credential or for none**, and says whom it is made for. -/
theorem prepareProbe_ok_iff : c.prepareProbe username password = .ok request ↔ ∃ url,
    Http.Url.parse? (c.url Path.authInfo) = some url ∧
    (Target.ofChars? (withoutCredentials url).1.write).isSome = true ∧
    request = { method := "GET", url := (withoutCredentials url).1
                headers := (withoutCredentials url).2 ++ [("authorization", basic username (some password))]
                body := [] } := by
  have lower : lowerNames [("authorization", basic username (some password))] =
      [("authorization", basic username (some password))] := by
    have name : Header.lowerName "authorization" = "authorization" := by decide
    simp only [lowerNames, List.map_cons, List.map_nil, name]
  have sendable : [("authorization", basic username (some password))].all Header.isSendable = true := by
    rw [List.all_cons, isSendable_basic]
    rfl
  unfold prepareProbe
  rw [Json.mapError_eq_ok_iff, address_ok_iff, lower]
  constructor
  · rintro ⟨url, read, -, writable, rfl⟩
    exact ⟨url, read, writable, rfl⟩
  · rintro ⟨url, read, writable, rfl⟩
    exact ⟨url, read, sendable, writable, rfl⟩

theorem authorizations_of_prepareProbe (prepared : c.prepareProbe username password = .ok request) :
    request.authorizations = c.inAddress ++ [basic username (some password)] := by
  obtain ⟨url, read, -, rfl⟩ := prepareProbe_ok_iff.1 prepared
  have own : Header.values "authorization" [("authorization", basic username (some password))] =
      [basic username (some password)] := by
    have name : Header.lowerName "authorization" = "authorization" := by decide
    simp [Header.values, name]
  unfold inAddress Http.Request.authorizations
  rw [read, Header.values_append, own]
  rfl

theorem probes_of_prepareProbe (network : Network σ) (s : σ)
    (prepared : c.prepareProbe username password = .ok request) :
    ∃ more, c.probes network username password s = request :: more ∧
      ∀ r ∈ more, r.authorizations = c.inAddress ++ [basic username (some password)] ∨ r.authorizations = [] := by
  have first := authorizations_of_prepareProbe prepared
  have step : ∀ {r : Http.Request} {reply : Http.Reply} {next : Http.Request},
      r.authorizations = c.inAddress ++ [basic username (some password)] ∨ r.authorizations = [] →
      r.redirected? c.redirects reply = some (.ok next) →
      next.authorizations = c.inAddress ++ [basic username (some password)] ∨ next.authorizations = [] := by
    intro r reply next h moves
    obtain same | none := Http.authorizations_redirected moves
    · rwa [same]
    · exact .inr none
  obtain ⟨more, (made : (Http.follow c.redirects network.noted Http.maxRedirects request (s, [])).2.2 = _), all⟩ :=
    Http.made_follow step (.inl first) s []
  refine ⟨more, ?_, all⟩
  unfold probes authenticate
  rw [prepared]
  exact made

theorem probes_of_error (network : Network σ) (s : σ) {e : Error}
    (failed : c.prepareProbe username password = .error e) :
    c.probes network username password s = [] := by
  unfold probes authenticate
  rw [failed]
  rfl

theorem authorizations_of_mem_probes {s : σ} (h : request ∈ c.probes network username password s) :
    request.authorizations = c.inAddress ++ [basic username (some password)] ∨ request.authorizations = [] := by
  cases prepared : c.prepareProbe username password with
  | error e =>
    rw [probes_of_error network s prepared] at h
    cases h
  | ok first =>
    obtain ⟨more, hmore, all⟩ := probes_of_prepareProbe network s prepared
    rw [hmore] at h
    obtain rfl | h := List.mem_cons.1 h
    · exact .inl (authorizations_of_prepareProbe prepared)
    · exact all request h

/-- A probe of a credential speaks for it with one value, whoever answers. -/
structure Proves (c : Client) (username password value text : String) : Prop where
  carries : Carries value text
  cut : cutAtColon text = some (username, password) ↔ ':' ∉ username.toList
  /-- If the domain can be asked at all, it is asked with this value first. -/
  first : c.CanProbe → ∀ {σ : Type} (network : Network σ) (s : σ), ∃ request more,
    c.probes network username password s = request :: more ∧ request.authorizations = c.inAddress ++ [value]
  /-- No request of the probe speaks for anyone else. -/
  only : ∀ {σ : Type} (network : Network σ) (s : σ), ∀ request ∈ c.probes network username password s,
    request.authorizations = c.inAddress ++ [value] ∨ request.authorizations = []

theorem proves_basic (c : Client) (username password : String) :
    c.Proves username password (basic username (some password)) (username ++ ":" ++ password) where
  carries := carries_basic username password
  cut := cutAtColon_eq_iff username password
  first := by
    rintro ⟨url, read, writable⟩ σ network s
    obtain ⟨request, prepared⟩ : ∃ request, c.prepareProbe username password = .ok request :=
      ⟨_, prepareProbe_ok_iff.2 ⟨url, read, writable, rfl⟩⟩
    obtain ⟨more, hmore, -⟩ := probes_of_prepareProbe network s prepared
    exact ⟨_, more, hmore, authorizations_of_prepareProbe prepared⟩
  only := fun _ _ _ h => authorizations_of_mem_probes h

/-- An address below an origin speaks for no one. -/
theorem inAddress_of_origin {o : Origin} (named : Http.Host.IsName o.host) (base : c.baseUrl.toList = o.text) :
    c.inAddress = [] := by
  have final : Http.Url.IsFinal Place.authInfo.segments Place.authInfo.query := Place.isFinal trivial
  have spelled : (c.url Path.authInfo).toList = Http.Url.spelled o.scheme o.authority Place.authInfo.path.toList :=
    url_toList base Place.authInfo.relative
  unfold inAddress
  cases read : Http.Url.parse? (c.url Path.authInfo) with
  | none => rfl
  | some url =>
    unfold Http.Url.parse? at read
    rw [spelled, Place.path_eq] at read
    obtain rfl := Origin.url_eq named final read
    rfl

/-- **Below an origin the value stands alone** in the requests of a probe. -/
theorem Proves.alone_of_origin (proves : c.Proves username password value text) {o : Origin}
    (named : Http.Host.IsName o.host) (base : c.baseUrl.toList = o.text) :
    (c.CanProbe → ∀ {σ : Type} (network : Network σ) (s : σ), ∃ request more,
      c.probes network username password s = request :: more ∧ request.authorizations = [value]) ∧
    ∀ {σ : Type} (network : Network σ) (s : σ), ∀ request ∈ c.probes network username password s,
      request.authorizations = [value] ∨ request.authorizations = [] := by
  obtain ⟨-, -, first, only⟩ := proves
  rw [inAddress_of_origin named base] at first only
  exact ⟨first, only⟩

/-- **A probe proves the credential that it is made for.** Whatever the name and the password are, the value that is
sent for them carries a text in which a server finds the two exactly if there is no colon in the name; and credentials
without one are never probed with the same value. -/
theorem probe_proves (c : Client) :
    (∀ username password, ∃ value text, c.Proves username password value text) ∧
    ∀ a b : Credential, ':' ∉ a.username.toList → ':' ∉ b.username.toList →
      ∀ {σ τ : Type} (network : Network σ) (network' : Network τ) (s : σ) (s' : τ),
      ∀ request ∈ c.probes network a.username a.password s, ∀ request' ∈ c.probes network' b.username b.password s',
        request.authorizations ≠ [] → request.authorizations = request'.authorizations → a = b := by
  refine ⟨fun username password => ⟨_, _, proves_basic c username password⟩, ?_⟩
  intro a b plain plain' σ τ network network' s s' request made request' made' speaks same
  have of_a := (authorizations_of_mem_probes made).resolve_right speaks
  have of_b := (authorizations_of_mem_probes made').resolve_right (same ▸ speaks)
  have values := List.append_cancel_left (of_a.symm.trans (same.trans of_b))
  obtain ⟨hname, hpassword⟩ := credential_eq_of_basic plain plain' (List.singleton_inj.1 values)
  cases a
  cases b
  simp only at hname hpassword
  rw [hname, hpassword]

/-- Two secrets that spell one credential differently, probed at a domain that is silent and at one that redirects. -/
theorem probe_proves_respelled :
    ∃ a b : Credential, Credential.ofSecret "s" "\x7b\"username\": \"admin\", \"password\": \"s:3\"\x7d" = .ok a ∧
      Credential.ofSecret "s" "\x7b\"password\":\"s\\u003a3\",\"username\":\"admin\"\x7d" = .ok b ∧
      ∃ request ∈ plain.probes scripted a.username a.password [],
      ∃ request' ∈ plain.probes scripted b.username b.password [{ status := 302, headers := [("location", "/login")] }],
        request.authorizations ≠ [] ∧ request.authorizations = request'.authorizations ∧ a = b := by
  have asked : ["Basic YWRtaW46czoz"] ∈ (plain.probes scripted "admin" "s:3" []).map (·.authorizations) := by
    decide +kernel
  have asked' : ["Basic YWRtaW46czoz"] ∈ (plain.probes scripted "admin" "s:3"
      [{ status := 302, headers := [("location", "/login")] }]).map (·.authorizations) := by decide +kernel
  obtain ⟨request, made, value⟩ := List.mem_map.1 asked
  obtain ⟨request', made', value'⟩ := List.mem_map.1 asked'
  have speaks : request.authorizations ≠ [] := by
    rw [value]
    exact List.cons_ne_nil _ _
  have same := value.trans value'.symm
  exact ⟨⟨"admin", "s:3"⟩, ⟨"admin", "s:3"⟩, by decide +kernel, by decide +kernel, request, made, request', made',
    speaks, same, (probe_proves plain).2 _ _ (by decide) (by decide) _ _ _ _ request made request' made' speaks same⟩

end Client
end SearchDomain.DomainApi
