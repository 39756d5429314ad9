import SearchDomain.Http.Url
/-!
# Target — the parts of an address as they are spelled

A signature is made over the text of an address before anything is normalised, so its parts are cut out here without
changing them. The scheme may be any. Only characters that may stand in an address unescaped are accepted; beyond ASCII
every character may stand in a path or a query.
-/
namespace SearchDomain.Http

/-- An address cut into its parts. -/
structure Target where
  scheme : List Char
  authority : List Char
  path : List Char
  query : List Char
  deriving DecidableEq, Repr

namespace Target

def maxLength : Nat := 65534

def maxScheme : Nat := 64

def isPathChar (c : Char) : Bool :=
  let n := c.toNat
  n == 0x21 || (0x24 ≤ n && n ≤ 0x3B) || n == 0x3D || (0x40 ≤ n && n ≤ 0x5F) || (0x61 ≤ n && n ≤ 0x7A) || n == 0x7C
    || 0x7E ≤ n || c == '"' || c == '{' || c == '}'

def isQueryChar (c : Char) : Bool :=
  let n := c.toNat
  n == 0x21 || (0x24 ≤ n && n ≤ 0x3B) || n == 0x3D || (0x3F ≤ n && n ≠ 0x7F)

def isAuthorityChar (c : Char) : Bool := c.isAlphanum || "!$&'()*+,-.:;=@[]_~%".toList.contains c

/-- What has been seen of an authority. -/
structure Seen where
  colons : Nat := 0
  opened : Bool := false
  closed : Bool := false
  percent : Bool := false

/-- One more character of an authority: one pair of brackets, few colons, escapes only in front of an `@`. -/
def Seen.step (s : Seen) (c : Char) : Option Seen :=
  if !isAuthorityChar c then none
  else if c = ':' then if 8 ≤ s.colons then none else some { s with colons := s.colons + 1 }
  else if c = '[' then if s.percent || s.opened then none else some { s with opened := true }
  else if c = ']' then
    if !s.opened || s.closed then none else some { s with closed := true, colons := 0, percent := false }
  else if c = '@' then some { s with colons := 0, percent := false }
  else if c = '%' then some { s with percent := true }
  else some s

def isAuthority (cs : List Char) : Bool :=
  match cs.foldlM Seen.step {} with
  | none => false
  | some s => s.opened == s.closed && s.colons ≤ 1 && !s.percent && cs ≠ [] && cs.getLast? ≠ some '@'

/-- The scheme and the rest of an address. Only the two web schemes do not depend on case. -/
def scheme? (cs : List Char) : Option (List Char × List Char) :=
  let spelled := cs.takeWhile Url.isSchemeChar
  match cs.dropWhile Url.isSchemeChar with
  | ':' :: '/' :: '/' :: rest =>
    if maxScheme < spelled.length then none else some (((Scheme.ofName? spelled).map Scheme.name).getD spelled, rest)
  | _ => none

def endsAuthority (c : Char) : Bool := c == '/' || c == '?' || c == '#'

/-- The parts of an address; an empty path is a slash, a fragment is dropped. -/
def ofChars? (cs : List Char) : Option Target := do
  if maxLength < (Text.Utf8.encode cs).length then none
  let (scheme, rest) ← scheme? cs
  let authority := rest.takeWhile (!endsAuthority ·)
  let (path, query, _) := Url.splitTail (rest.dropWhile (!endsAuthority ·))
  let query := query.getD []
  if isAuthority authority && path.all isPathChar && query.all isQueryChar then
    some { scheme, authority, path := if path = [] then ['/'] else path, query }
  else none

/-- The value of the host header: the authority without the scheme's own port. -/
def hostHeader (t : Target) : List Char :=
  match Url.splitPort false (Url.splitUser t.authority).2 with
  | (host, some port) =>
    if (Scheme.ofName? t.scheme).any fun scheme => port = Host.writeNat scheme.defaultPort then host else t.authority
  | (_, none) => t.authority

end Target
end SearchDomain.Http
