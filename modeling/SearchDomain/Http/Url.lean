import SearchDomain.Http.Host
/-!
# Url — addresses of the two web schemes

Reading follows the standard for URLs in browsers: backslashes are slashes, dot segments disappear, and what must not
stand as it is gets percent-encoded, while escapes that are there already stay as they are.
-/
namespace SearchDomain.Http

inductive Scheme
  | http
  | https
  deriving DecidableEq, Repr

namespace Scheme

def name : Scheme → List Char
  | http => "http".toList
  | https => "https".toList

def defaultPort : Scheme → Nat
  | http => 80
  | https => 443

def ofName? (cs : List Char) : Option Scheme :=
  let cs := cs.map Char.toLower
  if cs = http.name then some http else if cs = https.name then some https else none

end Scheme

/-- An address. The user's name and password are kept percent-encoded; the port is left out when it is the scheme's
own; the path is a list of segments, at least one. -/
structure Url where
  scheme : Scheme
  user : Option (List Char × Option (List Char))
  host : Host
  port : Option Nat
  path : List (List Char)
  query : Option (List Char)
  fragment : Option (List Char)
  deriving DecidableEq, Repr

namespace Url

/-! ## Percent-encode sets -/

/-- Controls and everything that is not ASCII. -/
def isControlByte (b : UInt8) : Bool := b.toNat ≤ 0x1F || 0x7F ≤ b.toNat

def keeps (escaped : String) (b : UInt8) : Bool := !isControlByte b && !escaped.toList.contains (Char.ofNat b.toNat)

def fragmentKeeps : UInt8 → Bool := keeps " \"<>`"

def queryKeeps : UInt8 → Bool := keeps " \"#<>'"

def pathKeeps : UInt8 → Bool := keeps " \"<>`#?\x7b\x7d"

def userKeeps : UInt8 → Bool := keeps " \"<>`#?\x7b\x7d/:;=@[\\]^|"

/-! ## Paths -/

def isSlash (c : Char) : Bool := c == '/' || c == '\\'

/-- A dot, plain or as an escape. -/
def dots : List Char → Option Nat
  | [] => some 0
  | '.' :: rest => (dots rest).map (· + 1)
  | '%' :: '2' :: 'e' :: rest => (dots rest).map (· + 1)
  | '%' :: '2' :: 'E' :: rest => (dots rest).map (· + 1)
  | _ => none

def isSingleDot (segment : List Char) : Bool := dots segment == some 1

def isDoubleDot (segment : List Char) : Bool := dots segment == some 2

/-- Segments under those already there: dot segments stay or go up, and leave an empty one at the end. -/
def resolveSegments : List (List Char) → List (List Char) → List (List Char)
  | done, [] => done
  | done, [last] =>
    if isDoubleDot last then done.dropLast ++ [[]]
    else if isSingleDot last then done ++ [[]]
    else done ++ [Text.Percent.encode pathKeeps last]
  | done, segment :: rest =>
    if isDoubleDot segment then resolveSegments done.dropLast rest
    else if isSingleDot segment then resolveSegments done rest
    else resolveSegments (done ++ [Text.Percent.encode pathKeeps segment]) rest

def splitSlashes (cs : List Char) : List (List Char) := (cs.map fun c => if isSlash c then '/' else c).splitOn '/'

/-! ## Reading -/

def isBlankAround (c : Char) : Bool := c.toNat ≤ 0x20

/-- The text without blanks around it and without line ends and tabs anywhere. -/
def cleaned (cs : List Char) : List Char :=
  ((cs.dropWhile isBlankAround).reverse.dropWhile isBlankAround).reverse.filter fun c =>
    !(c == '\t' || c == '\n' || c == '\r')

def isSchemeChar (c : Char) : Bool := c.isAlphanum || c == '+' || c == '-' || c == '.'

def scheme? (cs : List Char) : Option (Scheme × List Char) :=
  match cs.dropWhile isSchemeChar with
  | ':' :: rest => (Scheme.ofName? (cs.takeWhile isSchemeChar)).map (·, rest)
  | _ => none

def endsAuthority (c : Char) : Bool := isSlash c || c == '?' || c == '#'

def splitUser (cs : List Char) : Option (List Char) × List Char :=
  if cs.contains '@' then
    let host := (cs.reverse.takeWhile (· ≠ '@')).reverse
    (some (cs.take (cs.length - host.length - 1)), host)
  else (none, cs)

/-- The name and password in front of a host, if they are not both empty. -/
def user? (cs : List Char) : Option (List Char × Option (List Char)) :=
  let encoded := Text.Percent.encode userKeeps
  let name := cs.takeWhile (· ≠ ':')
  let password := (cs.dropWhile (· ≠ ':')).drop 1
  if name = [] ∧ password = [] then none
  else some (encoded name, if password = [] then none else some (encoded password))

/-- The host and what follows its colon; a colon in brackets does not count. -/
def splitPort : (inside : Bool) → List Char → List Char × Option (List Char)
  | _, [] => ([], none)
  | inside, c :: cs =>
    if c = ':' ∧ !inside then ([], some cs)
    else
      let (host, port) := splitPort (c == '[' || (inside && c != ']')) cs
      (c :: host, port)

/-- A port: none if it is not given or is the scheme's own. -/
def port? (scheme : Scheme) : Option (List Char) → Option (Option Nat)
  | none => some none
  | some [] => some none
  | some ds =>
    if ds.all Char.isDigit then
      let n := ds.foldl (fun n c => n * 10 + (c.toNat - 48)) 0
      if n ≤ 65535 then some (if n = scheme.defaultPort then none else some n) else none
    else none

def after (mark : Char) : List Char → Option (List Char)
  | c :: cs => if c = mark then some cs else none
  | [] => none

/-- Path, query and fragment of the text after the authority, under the segments already there. -/
def splitTail (cs : List Char) : List Char × Option (List Char) × Option (List Char) :=
  let beforeFragment := cs.takeWhile (· ≠ '#')
  let fragment := after '#' (cs.dropWhile (· ≠ '#'))
  (beforeFragment.takeWhile (· ≠ '?'), after '?' (beforeFragment.dropWhile (· ≠ '?')), fragment)

def encodeQuery : Option (List Char) → Option (List Char) := Option.map (Text.Percent.encode queryKeeps)

def encodeFragment : Option (List Char) → Option (List Char) := Option.map (Text.Percent.encode fragmentKeeps)

/-- The path of the text after an authority: empty, or with a slash in front. -/
def absolutePath (cs : List Char) : List (List Char) := resolveSegments [] (splitSlashes (cs.drop 1))

/-- The address after its scheme and slashes. -/
def ofAuthority? (scheme : Scheme) (cs : List Char) : Option Url := do
  let (user, hostPort) := splitUser (cs.takeWhile (!endsAuthority ·))
  let (hostText, portText) := splitPort false hostPort
  let host ← Host.parse? hostText
  let port ← port? scheme portText
  let (path, query, fragment) := splitTail (cs.dropWhile (!endsAuthority ·))
  return {
    scheme, host, port
    user := user.bind user?
    path := absolutePath path
    query := encodeQuery query
    fragment := encodeFragment fragment }

def ofChars? (cs : List Char) : Option Url := do
  let (scheme, rest) ← scheme? (cleaned cs)
  ofAuthority? scheme (rest.dropWhile isSlash)

def parse? (s : String) : Option Url := ofChars? s.toList

/-! ## Reading as seen from another address -/

/-- What a text points at: an address, or one of a scheme that is not for the web, as it is spelled. -/
inductive Reference
  | address (url : Url)
  | foreign (spelled : String)
  deriving DecidableEq, Repr

/-- The name of a scheme in front of a text, in small letters. -/
def schemeName? (cs : List Char) : Option (List Char × List Char) :=
  match cs.dropWhile isSchemeChar with
  | ':' :: rest =>
    if cs.head?.any Char.isAlpha then some ((cs.takeWhile isSchemeChar).map Char.toLower, rest) else none
  | _ => none

/-- Other schemes that are followed by a host as those of the web are. -/
def hostedSchemes : List (List Char) := ["ftp".toList, "ws".toList, "wss".toList]

/-- A text without a scheme, as seen from an address. -/
def relative? (base : Url) (cs : List Char) : Option Url :=
  let (path, query, fragment) := splitTail cs
  let moved (path : List (List Char)) (query : Option (List Char)) : Url :=
    { base with path, query, fragment := encodeFragment fragment }
  match path with
  | a :: b :: _ =>
    if isSlash a ∧ isSlash b then ofAuthority? base.scheme (cs.dropWhile isSlash)
    else if isSlash a then some (moved (absolutePath path) (encodeQuery query))
    else some (moved (resolveSegments base.path.dropLast (splitSlashes path)) (encodeQuery query))
  | [a] =>
    if isSlash a then some (moved (absolutePath path) (encodeQuery query))
    else some (moved (resolveSegments base.path.dropLast (splitSlashes path)) (encodeQuery query))
  | [] => some (moved base.path (if query.isSome then encodeQuery query else base.query))

/-- What a text points at as seen from an address. The address's own scheme in front of it says nothing. -/
def resolve? (base : Url) (s : String) : Option Reference :=
  let cs := cleaned s.toList
  match schemeName? cs with
  | none => (base.relative? cs).map .address
  | some (name, rest) =>
    match Scheme.ofName? name with
    | some scheme =>
      if scheme = base.scheme then (base.relative? rest).map .address
      else (ofAuthority? scheme (rest.dropWhile isSlash)).map .address
    | none =>
      -- a host that is none makes the text no address at all
      if hostedSchemes.contains name ∧ (ofAuthority? .http (rest.dropWhile isSlash)).isNone then none
      else some (.foreign (String.ofList (name ++ ':' :: rest)))

/-! ## Writing -/

def writePath (path : List (List Char)) : List Char := path.flatMap ('/' :: ·)

def marked (mark : Char) : Option (List Char) → List Char
  | none => []
  | some cs => mark :: cs

/-- The host, and the port if it is not the scheme's own. -/
def authority (u : Url) : List Char := u.host.write ++ marked ':' (u.port.map Host.writeNat)

/-- The user's name and password with the mark behind them. -/
def writeUser : Option (List Char × Option (List Char)) → List Char
  | none => []
  | some (name, password) => name ++ marked ':' password ++ ['@']

/-- Path and query: what a request asks of the host. -/
def target (u : Url) : List Char := writePath u.path ++ marked '?' u.query

def write (u : Url) : List Char :=
  u.scheme.name ++ "://".toList ++ writeUser u.user ++ u.authority ++ u.target ++ marked '#' u.fragment

def text (u : Url) : String := String.ofList u.write

/-! ## Credentials -/

def decodedText? (cs : List Char) : Option String := (Text.Utf8.decode (Text.Percent.decode cs)).toOption

/-- The name and password that an address carries. They count only if the name is a text; a password that is none
counts as absent, and then the name must not be empty. -/
def credentials? (u : Url) : Option (String × Option String) := do
  let (name, password) ← u.user
  let name ← decodedText? name
  let password := password.bind decodedText?
  if name = "" ∧ password = none then none else some (name, password)

end Url
end SearchDomain.Http
