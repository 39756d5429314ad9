import SearchDomain.DomainApi.Path
import SearchDomain.DomainApi.Request
import SearchDomain.Endpoint
import SearchDomain.Http.Multipart
import SearchDomain.Http.Network
import SearchDomain.Json.Writer
import SearchDomain.Signature.Authorization
import SearchDomain.Text.Base64
/-!
# Client — the domain's REST API over a network

Every request is signed with the credentials of the moment, and then sent as it was signed. The probe of an internal
user carries that user's name and password instead.
-/
namespace SearchDomain.DomainApi

open Http (Header Network)
open Text.Utf8 (Bytes ofString)

/-- The name under which requests to a search domain are signed. -/
def signingService : String := "es"

structure Client where
  baseUrl : String
  region : String
  credentials : Signature.CredentialSource
  redirects : Http.RedirectRule := .postOnly

/-- What a request takes from the moment at which it is sent: the time, and a random text for a boundary. -/
structure Moment where
  time : Timestamp
  random : String := ""
  deriving DecidableEq, Repr

namespace Client

/-- The client of an endpoint; there must be somewhere to take credentials from. -/
def ofEndpoint (endpoint region : String) (source : Option Signature.CredentialSource) : Except Error Client :=
  match source with
  | some credentials => .ok { baseUrl := Endpoint.baseUrl endpoint, region, credentials }
  | none => .error (.signing "no credentials provider configured")

def url (c : Client) (path : String) : String := Endpoint.url c.baseUrl path

def encodeBody (random : String) : Body → List Header × Bytes
  | .empty => ([], [])
  | .json document => ([("content-type", "application/json")], ofString document.render)
  | .file name content =>
    let boundary := Http.Multipart.boundaryDashes ++ random
    ([("content-type", Http.Multipart.contentType boundary)], Http.Multipart.write boundary name content)

def sign (c : Client) (time : Timestamp) (method url : String) (headers : List Header) (body : Bytes) :
    Except Error (List Header) := do
  let credentials ← c.credentials.provide.mapError .signing
  match Signature.signingHeaders? credentials ⟨time, c.region, signingService⟩ method url headers body with
  | some signed => return signed
  | none => throw (.signing "failed to create canonical request")

def lowerNames (headers : List Header) : List Header := headers.map fun (n, v) => (Header.lowerName n, v)

/-- The value of a header for a name and a password. -/
def basic (username : String) (password : Option String) : String :=
  "Basic " ++ String.ofList (Text.Base64.encode (ofString (username ++ ":" ++ password.getD "")))

/-- The address without the name and password that it carries, and the header that they become. -/
def withoutCredentials (url : Http.Url) : Http.Url × List Header :=
  match url.credentials? with
  | some (name, password) => ({ url with user := none }, [("authorization", basic name password)])
  | none => (url, [])

/-- A request to the address that a text spells. A name and password in the address become a header. -/
def address (method url : String) (headers : List Header) (body : Bytes) : Except Http.Failure Http.Request :=
  match Http.Url.parse? url with
  | none => .error .notBuilt
  | some url =>
    let (url, own) := withoutCredentials url
    if !headers.all Header.isSendable then .error .notBuilt
    else if (Http.Target.ofChars? url.write).isNone then .error (.notWritable url)
    else .ok { method, url, headers := own ++ lowerNames headers, body }

def unreached (failure : Http.Failure) : Error := .transport failure.message

def prepare (c : Client) (moment : Moment) (request : Request) : Except Error Http.Request := do
  let url := c.url request.path
  let (bodyHeaders, body) := encodeBody moment.random request.body
  let headers := request.headers ++ bodyHeaders
  let signed ← c.sign moment.time request.method.name url headers body
  (address request.method.name url (headers ++ signed) body).mapError unreached

/-- The request that asks the domain who a user is. -/
def prepareProbe (c : Client) (username password : String) : Except Error Http.Request :=
  (address "GET" (c.url Path.authInfo) [("authorization", basic username (some password))] []).mapError unreached

def exchange {σ : Type} (c : Client) (network : Network σ) (request : Except Error Http.Request) (s : σ) :
    Except Error Response × σ :=
  match request with
  | .error e => (.error e, s)
  | .ok request =>
    let (reply, s) := Http.fetch c.redirects network request s
    ((reply.map fun (status, body) => ⟨status, body⟩).mapError unreached, s)

def send {σ : Type} (c : Client) (network : Network σ) (moment : Moment) (request : Request) (s : σ) :
    Except Error Response × σ :=
  c.exchange network (c.prepare moment request) s

def authenticate {σ : Type} (c : Client) (network : Network σ) (username password : String) (s : σ) :
    Except Error Response × σ :=
  c.exchange network (c.prepareProbe username password) s

end Client
end SearchDomain.DomainApi
