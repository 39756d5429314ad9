import SearchDomain.Digest.Hmac
import SearchDomain.Signature.CanonicalRequest
import SearchDomain.Signature.Credentials
import SearchDomain.Timestamp
/-!
# Authorization — the signature of a request, version 4

The canonical request is digested into a string to sign together with the time and the scope; a key is derived from
the secret key for that scope; the signature is a keyed digest. It travels in a header beside the time, the digest of
the body and, if there is one, the session token.
-/
namespace SearchDomain.Signature

open Text.Utf8 (Bytes ofString)

/-- When and for what a signature is made. -/
structure Scope where
  time : Timestamp
  region : String
  service : String
  deriving DecidableEq, Repr

namespace Scope

def algorithm : String := "AWS4-HMAC-SHA256"

def terminator : String := "aws4_request"

/-- The scope as it is written in a string to sign. -/
def text (s : Scope) : String := "/".intercalate [s.time.date, s.region, s.service, terminator]

end Scope

def hexText (bytes : Bytes) : String := String.ofList (Text.Hex.ofBytes bytes)

def stringToSign (scope : Scope) (request : CanonicalRequest) : String :=
  "\n".intercalate
    [Scope.algorithm, scope.time.dateTime, scope.text, hexText (Digest.sha256 (ofString request.text))]

def signingKey (secretKey : String) (scope : Scope) : Bytes :=
  [scope.time.date, scope.region, scope.service, Scope.terminator].foldl
    (fun key part => Digest.hmac key (ofString part)) (ofString ("AWS4" ++ secretKey))

def signature (secretKey : String) (scope : Scope) (request : CanonicalRequest) : String :=
  hexText (Digest.hmac (signingKey secretKey scope) (ofString (stringToSign scope request)))

def authorization (credentials : Credentials) (scope : Scope) (request : CanonicalRequest) : String :=
  Scope.algorithm ++ " Credential=" ++ credentials.accessKey ++ "/" ++ scope.text ++ ", SignedHeaders="
    ++ request.signedNames ++ ", Signature=" ++ signature credentials.secretKey scope request

def dateHeader : String := "x-amz-date"

def contentHashHeader : String := "x-amz-content-sha256"

def tokenHeader : String := "x-amz-security-token"

/-- All headers that take part: those given, the host, the time, the token and the digest of the body; none if one of
them is no header. -/
def allHeaders? (token : Option String) (time : Timestamp) (target : Http.Target) (headers : List Http.Header)
    (payload : String) : Option (List Http.Header) := do
  let given ← headers.mapM normalHeader?
  let withHost := if given.any (·.1 = "host") then given else given ++ [("host", String.ofList target.hostHeader)]
  let withDate := replaceHeader (dateHeader, time.dateTime) withHost
  let withToken ← match token with
    | none => some withDate
    | some token =>
      if Http.Header.isValue token.toList then some (replaceHeader (tokenHeader, token) withDate) else none
  return replaceHeader (contentHashHeader, payload) withToken

/-- The canonical form of a request about to be sent to a URL; none if it has no such form. -/
def canonicalRequest? (token : Option String) (time : Timestamp) (method url : String) (headers : List Http.Header)
    (body : Bytes) : Option CanonicalRequest := do
  let target ← Http.Target.ofChars? url.toList
  let payload := CanonicalRequest.payloadHash body
  let all ← allHeaders? token time target headers payload
  return .ofParts method target.path target.query (signedNames all) all payload

def signingHeaders? (credentials : Credentials) (scope : Scope) (method url : String) (headers : List Http.Header)
    (body : Bytes) : Option (List Http.Header) := do
  let request ← canonicalRequest? credentials.sessionToken scope.time method url headers body
  return [(dateHeader, scope.time.dateTime), ("authorization", authorization credentials scope request),
      (contentHashHeader, request.payload)]
    ++ (credentials.sessionToken.map fun token => (tokenHeader, token)).toList

end SearchDomain.Signature
