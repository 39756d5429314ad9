import SearchDomain.Decimal.Shortest
import SearchDomain.Json.Value
import SearchDomain.Text.Hex
/-!
# Writer — the compact text of a JSON value

No blanks; members in the order of the value. In strings only quotes, backslashes and controls are escaped.
-/
namespace SearchDomain.Json

def escapeChar (c : Char) : List Char :=
  if c = '"' then ['\\', '"']
  else if c = '\\' then ['\\', '\\']
  else if c = '\x08' then ['\\', 'b']
  else if c = '\t' then ['\\', 't']
  else if c = '\n' then ['\\', 'n']
  else if c = '\x0c' then ['\\', 'f']
  else if c = '\r' then ['\\', 'r']
  else if c.toNat < 0x20 then
    ['\\', 'u', '0', '0', Text.Hex.lower (c.toNat / 16), Text.Hex.lower (c.toNat % 16)]
  else [c]

def writeString (s : String) : List Char := '"' :: s.toList.flatMap escapeChar ++ ['"']

def writeNat (n : Nat) : List Char := Nat.toDigits 10 n

def writeNumber : JsonNumber → List Char
  | .whole (.ofNat n) => writeNat n
  | .whole (.negSucc n) => '-' :: writeNat (n + 1)
  | .float x => x.write

mutual

def write : Json → List Char
  | .null => ['n', 'u', 'l', 'l']
  | .bool true => ['t', 'r', 'u', 'e']
  | .bool false => ['f', 'a', 'l', 's', 'e']
  | .number n => writeNumber n
  | .string s => writeString s
  | .array [] => ['[', ']']
  | .array (v :: vs) => '[' :: write v ++ writeItems vs
  | .object [] => ['{', '}']
  | .object ((k, v) :: ms) => '{' :: writeString k ++ ':' :: write v ++ writeMembers ms

/-- The items after the first one, and the closing bracket. -/
def writeItems : List Json → List Char
  | [] => [']']
  | v :: vs => ',' :: write v ++ writeItems vs

/-- The members after the first one, and the closing bracket. -/
def writeMembers : List (String × Json) → List Char
  | [] => ['}']
  | (k, v) :: ms => ',' :: writeString k ++ ':' :: write v ++ writeMembers ms

end

def render (v : Json) : String := String.ofList v.write

end SearchDomain.Json
