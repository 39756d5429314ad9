import SearchDomain.Digest.Sha256
import SearchDomain.Http.Header
import SearchDomain.Http.Target
import SearchDomain.Text.Hex
/-!
# CanonicalRequest — the one form of a request that is signed

Both sides of a signature bring a request to this form: the path without empty and dot segments and with every
segment encoded once more, the query decoded, sorted and encoded again, and the signed headers sorted by name with
blanks in their values collapsed.
-/
namespace SearchDomain.Signature

open Text.Utf8 (Bytes)

/-! ## Paths -/

/-- Segments without empty ones and with dot segments resolved. -/
def normalSegments (segments : List (List Char)) : List (List Char) :=
  segments.foldl (fun done segment =>
    if segment = [] ∨ segment = ['.'] then done
    else if segment = ['.', '.'] then done.dropLast
    else done ++ [segment]) []

def hasDoubleSlash : List Char → Bool
  | '/' :: '/' :: _ => true
  | _ :: rest => hasDoubleSlash rest
  | [] => false

def endsWith (tail cs : List Char) : Bool := tail.isSuffixOf cs

/-- A path with its dot segments and doubled slashes gone; a slash at the end stays. -/
def normalPath (path : List Char) : List Char :=
  if !path.contains '.' && !hasDoubleSlash path then path
  else
    let body := '/' :: List.intercalate ['/'] (normalSegments (path.splitOn '/'))
    let slash := endsWith ['/'] path || endsWith ['/', '.'] path || endsWith ['/', '.', '.'] path
    if slash && !endsWith ['/'] body then body ++ ['/'] else body

def keepsPath (b : UInt8) : Bool := Text.Percent.isUnreserved b || b == 47

/-- A path as it is signed: normal, and encoded although it is encoded already. -/
def signedPath (path : List Char) : List Char := Text.Percent.encode keepsPath (normalPath path)

/-! ## Queries -/

/-- A form value: a plus sign is a blank. -/
def formText (cs : List Char) : List Char :=
  (Text.Utf8.decodeLossy (Text.Percent.decode (cs.map fun c => if c = '+' then ' ' else c))).toList

def queryPairs (query : List Char) : List (List Char × List Char) :=
  ((query.splitOn '&').filter (· ≠ [])).map fun part =>
    (formText (part.takeWhile (· ≠ '=')), formText ((part.dropWhile (· ≠ '=')).drop 1))

/-- Order of texts by code points. -/
def charsLe : List Char → List Char → Bool
  | [], _ => true
  | _ :: _, [] => false
  | a :: as, b :: bs => if a = b then charsLe as bs else a < b

def pairLe (p q : List Char × List Char) : Bool := if p.1 = q.1 then charsLe p.2 q.2 else charsLe p.1 q.1

def encodeComponent (cs : List Char) : List Char := Text.Percent.encode Text.Percent.isUnreserved cs

def signedQuery (query : List Char) : List Char :=
  List.intercalate ['&']
    (((queryPairs query).mergeSort pairLe).map fun (k, v) => encodeComponent k ++ '=' :: encodeComponent v)

/-! ## Headers -/

/-- A value without blanks around it, and with single blanks inside. -/
def collapseSpaces : List Char → List Char
  | ' ' :: ' ' :: rest => collapseSpaces (' ' :: rest)
  | c :: rest => c :: collapseSpaces rest
  | [] => []

def trimSpaces (cs : List Char) : List Char :=
  ((cs.dropWhile (· = ' ')).reverse.dropWhile (· = ' ')).reverse

def normalValue (s : String) : String := String.ofList (collapseSpaces (trimSpaces s.toList))

/-- A header as it is signed, if it is one at all. -/
def normalHeader? (h : Http.Header) : Option Http.Header :=
  let name := Http.Header.lowerName h.1
  let value := normalValue h.2
  if Http.Header.isSendable (name, value) then some (name, value) else none

/-- Put a header in the place of all others of its name. -/
def replaceHeader (h : Http.Header) (headers : List Http.Header) : List Http.Header :=
  headers.filter (·.1 ≠ h.1) ++ [h]

/-- Headers that a signature leaves out, because they may change on the way. -/
def unsigned : List String := ["authorization", "user-agent", "x-amzn-trace-id", "transfer-encoding"]

def nameLe (a b : String) : Bool := charsLe a.toList b.toList

/-- The names of the headers to sign, each once and sorted. -/
def signedNames (headers : List Http.Header) : List String :=
  ((headers.map (·.1)).eraseDups.filter (!unsigned.contains ·)).mergeSort nameLe

/-- The values under a name in one line. -/
def joinedValue (name : String) (headers : List Http.Header) : String :=
  ",".intercalate ((headers.filter (·.1 = name)).map (·.2))

/-! ## The whole -/

structure CanonicalRequest where
  method : String
  path : List Char
  query : List Char
  headers : List Http.Header
  payload : String
  deriving DecidableEq, Repr

namespace CanonicalRequest

def payloadHash (body : Bytes) : String := String.ofList (Text.Hex.ofBytes (Digest.sha256 body))

/-- The canonical form of a request with these signed headers, whose values are normal. -/
def ofParts (method : String) (path query : List Char) (names : List String) (headers : List Http.Header)
    (payload : String) : CanonicalRequest where
  method
  path := signedPath path
  query := signedQuery query
  headers := names.map fun name => (name, joinedValue name headers)
  payload

def signedNames (r : CanonicalRequest) : String := ";".intercalate (r.headers.map (·.1))

def text (r : CanonicalRequest) : String :=
  "\n".intercalate
    ([r.method, String.ofList r.path, String.ofList r.query]
      ++ r.headers.map (fun (name, value) => name ++ ":" ++ value)
      ++ ["", r.signedNames, r.payload])

end CanonicalRequest
end SearchDomain.Signature
