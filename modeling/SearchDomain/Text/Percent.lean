import SearchDomain.Text.Hex
import SearchDomain.Text.Utf8
/-!
# Percent — percent-encoding

A byte is kept as its ASCII character or written as `%` and two upper-case hexadecimal digits. Reading turns each
well-formed escape into its byte and leaves everything else alone.
-/
namespace SearchDomain.Text.Percent

def isAlphanumericByte (b : UInt8) : Bool :=
  let n := b.toNat
  (48 ≤ n && n ≤ 57) || (65 ≤ n && n ≤ 90) || (97 ≤ n && n ≤ 122)

/-- The unreserved characters: letters, digits, `-`, `.`, `_` and `~`. -/
def isUnreserved (b : UInt8) : Bool :=
  isAlphanumericByte b || b == 45 || b == 46 || b == 95 || b == 126

def escape (b : UInt8) : List Char := ['%', Hex.upper (b.toNat / 16), Hex.upper (b.toNat % 16)]

def encodeByte (keep : UInt8 → Bool) (b : UInt8) : List Char :=
  if keep b then [Char.ofNat b.toNat] else escape b

def encodeBytes (keep : UInt8 → Bool) (bytes : Utf8.Bytes) : List Char := bytes.flatMap (encodeByte keep)

/-- A text whose bytes outside `keep` are escaped. -/
def encode (keep : UInt8 → Bool) (cs : List Char) : List Char := encodeBytes keep (Utf8.encode cs)

def decode : List Char → Utf8.Bytes
  | [] => []
  | '%' :: a :: b :: rest =>
    match Hex.value? a, Hex.value? b with
    | some x, some y => (x * 16 + y).toUInt8 :: decode rest
    | _, _ => 37 :: decode (a :: b :: rest)
  | c :: rest => Utf8.encodeChar c ++ decode rest

/-- One path segment or query part in which only unreserved characters stand for themselves. -/
def component (s : String) : String := String.ofList (encode isUnreserved s.toList)

end SearchDomain.Text.Percent
