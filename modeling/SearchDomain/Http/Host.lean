import SearchDomain.Idna.Name
import SearchDomain.Text.Hex
import SearchDomain.Text.Percent
/-!
# Host — who a URL is addressed to

A name, or a numeric address of either version. A name whose last label is a number must be an IPv4 address, in any of
its spellings; it is written with four decimal parts. A name may be given in any script; it is kept in ASCII.
-/
namespace SearchDomain.Http

inductive Host
  | name (name : List Char)
  | ipv4 (address : Nat)
  | ipv6 (pieces : List Nat)
  deriving DecidableEq, Repr

namespace Host

/-! ## IPv4 -/

/-- A part of an address: decimal, octal after `0`, hexadecimal after `0x`. -/
def number? (cs : List Char) : Option Nat :=
  let (base, ds) := match cs with
    | '0' :: 'x' :: ds => (16, ds)
    | '0' :: 'X' :: ds => (16, ds)
    | '0' :: d :: ds => (8, d :: ds)
    | _ => (10, cs)
  if cs = [] then none
  else
    ds.foldl (fun acc c => acc.bind fun n => (Text.Hex.value? c).bind fun d =>
      if d < base then some (n * base + d) else none) (some 0)

/-- The parts of a dotted name; one dot at the end does not count. -/
def labels (cs : List Char) : List (List Char) :=
  let parts := cs.splitOn '.'
  if parts.getLast? = some [] ∧ 1 < parts.length then parts.dropLast else parts

def endsInNumber (cs : List Char) : Bool :=
  match (labels cs).getLast? with
  | some last => last ≠ [] && (last.all Char.isDigit || (number? last).isSome)
  | none => false

/-- The value of the parts: all but the last are bytes, the last fills what remains. -/
def ipv4OfParts? : List Nat → (room : Nat) → Option Nat
  | [], _ => none
  | [last], room => if last < Nat.pow 256 room then some last else none
  | part :: rest, room => do
    let tail ← ipv4OfParts? rest (room - 1)
    if part < 256 then some (part * Nat.pow 256 (room - 1) + tail) else none

def ipv4? (cs : List Char) : Option Nat := do
  let parts ← (labels cs).mapM number?
  if parts.length ≤ 4 then ipv4OfParts? parts 4 else none

def writeNat (n : Nat) : List Char := Nat.toDigits 10 n

def writeIpv4 (n : Nat) : List Char :=
  List.intercalate ['.']
    [writeNat (n / 0x1000000 % 256), writeNat (n / 0x10000 % 256), writeNat (n / 256 % 256), writeNat (n % 256)]

/-! ## IPv6 -/

/-- One to four hexadecimal digits. -/
def piece? (cs : List Char) : Option Nat :=
  if 0 < cs.length ∧ cs.length ≤ 4 then
    cs.foldl (fun acc c => acc.bind fun n => (Text.Hex.value? c).map (n * 16 + ·)) (some 0)
  else none

/-- Four decimal parts without leading zeros as two pieces. -/
def dottedPieces? (cs : List Char) : Option (List Nat) := do
  let parts ← (cs.splitOn '.').mapM fun p =>
    if p.all Char.isDigit ∧ p ≠ [] ∧ (p.length = 1 ∨ p.head? ≠ some '0') then number? p else none
  match parts with
  | [a, b, c, d] => if a < 256 ∧ b < 256 ∧ c < 256 ∧ d < 256 then some [a * 256 + b, c * 256 + d] else none
  | _ => none

/-- Pieces between colons; the last may be dotted. -/
def pieces? : List (List Char) → Option (List Nat)
  | [] => some []
  | [last] => if last.contains '.' then dottedPieces? last else (piece? last).map ([·])
  | p :: rest => do return (← piece? p) :: (← pieces? rest)

def groups (cs : List Char) : List (List Char) := if cs = [] then [] else cs.splitOn ':'

/-- The text before and after the first double colon, if there is one. -/
def splitGap : List Char → Option (List Char × List Char)
  | ':' :: ':' :: rest => some ([], rest)
  | c :: rest => (splitGap rest).map fun (before, after) => (c :: before, after)
  | [] => none

def ipv6? (cs : List Char) : Option (List Nat) :=
  match splitGap cs with
  | none => do
    let ps ← pieces? (groups cs)
    if ps.length = 8 then some ps else none
  | some (before, after) => do
    let front ← (groups before).mapM piece?
    let back ← pieces? (groups after)
    if front.length + back.length ≤ 7 then
      some (front ++ List.replicate (8 - front.length - back.length) 0 ++ back)
    else none

/-- The length of the run of zeros at the front. -/
def zeroRun (ps : List Nat) : Nat := (ps.takeWhile (· = 0)).length

/-- Where the longest run of zeros starts, the first of equals, and its length. -/
def longestRun : (index : Nat) → List Nat → Nat × Nat
  | _, [] => (0, 0)
  | index, p :: rest =>
    let (start, length) := longestRun (index + 1) rest
    if length ≤ zeroRun (p :: rest) then (index, zeroRun (p :: rest)) else (start, length)

def writePieces (ps : List Nat) : List Char := List.intercalate [':'] (ps.map (Nat.toDigits 16))

/-- The pieces in lower-case digits, the longest run of at least two zeros left out. -/
def writeIpv6 (ps : List Nat) : List Char :=
  let (start, length) := longestRun 0 ps
  if 2 ≤ length then writePieces (ps.take start) ++ ':' :: ':' :: writePieces (ps.drop (start + length))
  else writePieces ps

/-! ## Hosts -/

/-- ASCII characters that no name may have. -/
def isForbidden (c : Char) : Bool := c.toNat ≤ 0x20 || c == '\x7f' || "#/:<>?@[\\]^|%".toList.contains c

/-- The name that a text spells, percent-decoded, or the address that the name is. -/
def domain? (cs : List Char) : Option Host := do
  let cs ← Idna.toAscii? (Text.Utf8.decodeLossy (Text.Percent.decode cs)).toList
  if cs = [] ∨ cs.any isForbidden then none
  else if endsInNumber cs then (ipv4? cs).map ipv4
  else some (name cs)

def parse? (cs : List Char) : Option Host :=
  match cs with
  | '[' :: rest => if rest.getLast? = some ']' then (ipv6? rest.dropLast).map ipv6 else none
  | _ => domain? cs

def write : Host → List Char
  | name cs => cs
  | ipv4 n => writeIpv4 n
  | ipv6 ps => '[' :: writeIpv6 ps ++ [']']

end Host
end SearchDomain.Http
