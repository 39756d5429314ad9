import SearchDomain.Http.Header
import SearchDomain.Http.Url
/-!
# Network — messages, and who answers them

A network takes a request and gives a reply or none. A client asks it as often as it is redirected. Clients do not agree
on what is asked then (`RedirectRule`).
-/
namespace SearchDomain.Http

open Text.Utf8 (Bytes)

structure Request where
  method : String
  url : Url
  headers : List Header
  body : Bytes
  deriving DecidableEq, Repr

/-- A reply; it is not complete if the connection ended before the body did. -/
structure Reply where
  status : Nat
  headers : List Header := []
  body : Bytes := []
  complete : Bool := true
  deriving DecidableEq, Repr

/-- Whoever answers requests, with a state of its own. -/
abbrev Network (σ : Type) := Request → σ → Option Reply × σ

def Network.unreachable : Network Unit := fun _ s => (none, s)

inductive Failure
  /-- The address is none, or a header. -/
  | notBuilt
  /-- The address cannot be put into a message. -/
  | notWritable (url : Url)
  | notSent (url : Url)
  /-- A reply points at an address that is not on the web. -/
  | foreign (spelled : String)
  | tooManyRedirects (url : Url)
  | bodyCutShort
  deriving DecidableEq, Repr

def Failure.message : Failure → String
  | .notBuilt => "builder error"
  | .notWritable url => "builder error for url (" ++ url.text ++ ")"
  | .notSent url => "error sending request for url (" ++ url.text ++ ")"
  | .foreign spelled => "builder error for url (" ++ spelled ++ ")"
  | .tooManyRedirects url => "error following redirect for url (" ++ url.text ++ ")"
  | .bodyCutShort => "error decoding response body"

/-! ## Redirects -/

/-- What a client asks for when it is redirected: the same again, or a GET without a body. -/
structure RedirectRule where
  /-- Whether a GET follows a reply with this status to a request with this method. -/
  becomesGet : (status : Nat) → (method : String) → Bool

namespace RedirectRule

/-- After 301, 302 and 303 a GET follows, whatever was asked. -/
def everyMethod : RedirectRule where
  becomesGet status method := (status == 301 || status == 302 || status == 303) && method != "HEAD"

/-- After 303 a GET follows, after 301 and 302 only if a POST was asked. -/
def postOnly : RedirectRule where
  becomesGet status method :=
    (status == 303 && method != "HEAD") || ((status == 301 || status == 302) && method == "POST")

end RedirectRule

/-- The statuses of replies that point at another address. -/
def redirectStatuses : List Nat := [301, 302, 303, 307, 308]

def maxRedirects : Nat := 10

def contentHeaders : List String := ["content-type", "content-length", "content-encoding", "transfer-encoding"]

/-- Headers that another host must not see. -/
def privateHeaders : List String := ["authorization", "cookie", "cookie2", "proxy-authorization", "www-authenticate"]

def Request.asGet (r : Request) : Request :=
  { r with method := "GET", body := [], headers := Header.without contentHeaders r.headers }

def Url.sameOrigin (a b : Url) : Bool :=
  a.host == b.host && a.port.getD a.scheme.defaultPort == b.port.getD b.scheme.defaultPort

/-- The address that a page tells where its visitor came from. -/
def Url.asReferer (u : Url) : String := { u with user := none, fragment := none : Url }.text

/-- The same request to another address. -/
def Request.movedTo (r : Request) (url : Url) : Request :=
  let headers := if r.url.sameOrigin url then r.headers else Header.without privateHeaders r.headers
  let headers := Header.without ["referer"] headers
  let downgraded := decide (r.url.scheme = .https ∧ url.scheme = .http)
  { r with url, headers := if downgraded then headers else headers ++ [("referer", r.url.asReferer)] }

/-- What a reply points at, if it redirects. -/
def Request.pointed? (r : Request) (reply : Reply) : Option Url.Reference :=
  if redirectStatuses.contains reply.status then
    (Header.values "location" reply.headers).head?.bind r.url.resolve?
  else none

/-- The request to which a reply redirects, if it does; there is none to an address that is not on the web. -/
def Request.redirected? (rule : RedirectRule) (r : Request) (reply : Reply) : Option (Except Failure Request) :=
  (r.pointed? reply).map fun
    | .foreign spelled => .error (.foreign spelled)
    | .address url => .ok ((if rule.becomesGet reply.status r.method then r.asGet else r).movedTo url)

/-- The reply to a request after at most `left` redirects. -/
def follow {σ : Type} (rule : RedirectRule) (network : Network σ) :
    (left : Nat) → Request → σ → Except Failure Reply × σ
  | left, request, s =>
    match network request s with
    | (none, s) => (.error (.notSent request.url), s)
    | (some reply, s) =>
      match request.redirected? rule reply with
      | none => (.ok reply, s)
      | some next =>
        match left, next with
        | 0, _ => (.error (.tooManyRedirects request.url), s)
        | _ + 1, .error failure => (.error failure, s)
        | left + 1, .ok next => follow rule network left next s

def fetch {σ : Type} (rule : RedirectRule) (network : Network σ) (request : Request) (s : σ) :
    Except Failure (Nat × String) × σ :=
  let (reply, s) := follow rule network maxRedirects request s
  let text : Except Failure (Nat × String) := do
    let reply ← reply
    if reply.complete then return (reply.status, Text.Utf8.decodeLossy reply.body) else throw .bodyCutShort
  (text, s)

end SearchDomain.Http
