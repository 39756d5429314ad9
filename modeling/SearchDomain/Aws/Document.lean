import SearchDomain.Decimal.Binary64
import SearchDomain.Json.Value
import SearchDomain.Text.Base64
import SearchDomain.Text.Hex
import SearchDomain.Text.Utf8
/-!
# Document — the JSON that a service sends

A service's reply is read leniently: a number may have leading zeros or end in its point, or be too large for any
arithmetic, and a string stays as it is spelled until somebody asks for its text. What is not looked at need only hang
together, and not too deep.
-/
namespace SearchDomain.Aws

/-- A document. Strings and keys are kept with their escapes; a number without a value is too large for a
floating-point number. -/
inductive Document
  | null
  | bool (b : Bool)
  | number (n : Option JsonNumber)
  | string (spelled : List Char)
  | array (items : List Document)
  | object (members : List (List Char × Document))
  deriving Repr, Inhabited

namespace Document

/-! ## Strings -/

/-- The text between quotes, with its escapes, and the rest. What follows a backslash is taken unseen. -/
def scanString : List Char → Option (List Char × List Char)
  | [] => none
  | '"' :: rest => some ([], rest)
  | '\\' :: c :: rest => (scanString rest).map fun (s, rest) => ('\\' :: c :: s, rest)
  | c :: rest => if c.toNat < 0x20 || c = '\\' then none else (scanString rest).map fun (s, rest) => (c :: s, rest)

/-- The number of four hexadecimal digits. -/
def hex4? (a b c d : Char) : Option Nat := do
  return (((← Text.Hex.value? a) * 16 + (← Text.Hex.value? b)) * 16 + (← Text.Hex.value? c)) * 16 +
    (← Text.Hex.value? d)

def shortEscape? (c : Char) : Option Char :=
  if c = '\\' ∨ c = '/' ∨ c = '"' then some c
  else if c = 'b' then some '\x08'
  else if c = 'f' then some '\x0c'
  else if c = 'n' then some '\n'
  else if c = 'r' then some '\r'
  else if c = 't' then some '\t'
  else none

/-- The text that a spelling stands for; surrogates must come in pairs. -/
def unescape? : List Char → Option (List Char)
  | [] => some []
  | '\\' :: 'u' :: a :: b :: c :: d :: rest => do
    let n ← hex4? a b c d
    if 0xD800 ≤ n ∧ n < 0xDC00 then
      match rest with
      | '\\' :: 'u' :: e :: f :: g :: h :: rest => do
        let m ← hex4? e f g h
        if 0xDC00 ≤ m ∧ m < 0xE000 then
          return Char.ofNat (0x10000 + (n - 0xD800) * 0x400 + (m - 0xDC00)) :: (← unescape? rest)
        else none
      | _ => none
    else if 0xDC00 ≤ n ∧ n < 0xE000 then none
    else return Char.ofNat n :: (← unescape? rest)
  | '\\' :: c :: rest => do return (← shortEscape? c) :: (← unescape? rest)
  | '\\' :: [] => none
  | c :: rest => (unescape? rest).map (c :: ·)

def text? (spelled : List Char) : Option String := (unescape? spelled).map String.ofList

/-! ## Numbers -/

def isNumberChar (c : Char) : Bool := c.isDigit || c == '-' || c == '+' || c == '.' || c == 'e' || c == 'E'

def digitsValue (ds : List Char) : Nat := ds.foldl (fun n c => n * 10 + (c.toNat - 48)) 0

/-- An exponent: an optional sign and digits. -/
def exponent? (cs : List Char) : Option Int :=
  let (down, ds) := match cs with
    | '-' :: ds => (true, ds)
    | '+' :: ds => (false, ds)
    | _ => (false, cs)
  if ds ≠ [] ∧ ds.all Char.isDigit then some (if down then -(digitsValue ds : Int) else digitsValue ds) else none

/-- The value of a decimal fraction with its point anywhere among the digits. -/
def fraction? (negative : Bool) (cs : List Char) : Option (Option JsonNumber) := do
  let isMark (c : Char) : Bool := c == 'e' || c == 'E'
  let mantissa := cs.takeWhile (!isMark ·)
  let e ← match cs.dropWhile (!isMark ·) with
    | [] => some 0
    | _ :: e => exponent? e
  let whole := mantissa.takeWhile Char.isDigit
  let part ← match mantissa.dropWhile Char.isDigit with
    | [] => some []
    | '.' :: part => if part.all Char.isDigit then some part else none
    | _ => none
  let ds := whole ++ part
  if ds = [] then none
  let n := digitsValue ds
  let scale : Int := e - part.length
  let magnitude := scale + (ds.dropWhile (· = '0')).length
  let x :=
    if n = 0 ∨ magnitude < -400 then some Decimal.Binary64.zero
    else if 400 < magnitude then none
    else if 0 ≤ scale then Decimal.Binary64.ofRatio? (n * Nat.pow 10 scale.natAbs) 1
    else Decimal.Binary64.ofRatio? n (Nat.pow 10 scale.natAbs)
  return x.map fun x => .float (x.withSign negative)

/-- The first number that does not fit 63 bits, `2 ^ 63`. -/
def wordLimit : Nat := 0x8000000000000000

/-- The value of a number: whole if it is spelled with digits only and fits 64 bits. -/
def number? (cs : List Char) : Option (Option JsonNumber) :=
  let (negative, ds) := match cs with
    | '-' :: ds => (true, ds)
    | _ => (false, cs)
  if ds ≠ [] ∧ ds.all Char.isDigit ∧
      (if negative then digitsValue ds ≤ wordLimit else digitsValue ds < 2 * wordLimit) then
    some (some (.whole (if negative then -(digitsValue ds : Int) else digitsValue ds)))
  else fraction? negative ds

/-! ## Values -/

def isBlank (c : Char) : Bool := c == ' ' || c == '\t' || c == '\r' || c == '\n'

def skipBlanks (cs : List Char) : List Char := cs.dropWhile isBlank

/-- A word or number must end at a blank, a comma or a bracket. -/
def atEnd : List Char → Bool
  | [] => true
  | c :: _ => isBlank c || c == ',' || c == '}' || c == ']'

def word? (word cs : List Char) : Option (List Char) :=
  if word.isPrefixOf cs && atEnd (cs.drop word.length) then some (cs.drop word.length) else none

mutual

def value? : (fuel : Nat) → List Char → Option (Document × List Char)
  | 0, _ => none
  | fuel + 1, cs =>
    match skipBlanks cs with
    | '{' :: rest => (members? fuel true rest).map fun (ms, rest) => (object ms, rest)
    | '[' :: rest => (items? fuel true rest).map fun (xs, rest) => (array xs, rest)
    | '"' :: rest => (scanString rest).map fun (s, rest) => (string s, rest)
    | 'n' :: rest => (word? "null".toList ('n' :: rest)).map (null, ·)
    | 't' :: rest => (word? "true".toList ('t' :: rest)).map (bool true, ·)
    | 'f' :: rest => (word? "false".toList ('f' :: rest)).map (bool false, ·)
    | c :: rest =>
      let rest' := (c :: rest).dropWhile isNumberChar
      if (c == '-' || c.isDigit) && atEnd rest' then
        (number? ((c :: rest).takeWhile isNumberChar)).map (number ·, rest')
      else none
    | [] => none

def items? : (fuel : Nat) → (first : Bool) → List Char → Option (List Document × List Char)
  | 0, _, _ => none
  | fuel + 1, first, cs =>
    match skipBlanks cs with
    | ']' :: rest => some ([], rest)
    | c :: rest => do
      let (v, rest) ← if first then value? fuel (c :: rest) else if c = ',' then value? fuel rest else none
      let (vs, rest) ← items? fuel false rest
      return (v :: vs, rest)
    | [] => none

def members? : (fuel : Nat) → (first : Bool) → List Char → Option (List (List Char × Document) × List Char)
  | 0, _, _ => none
  | fuel + 1, first, cs =>
    match skipBlanks cs with
    | '}' :: rest => some ([], rest)
    | c :: rest =>
      match (if first then c :: rest else if c = ',' then skipBlanks rest else []) with
      | '"' :: rest => do
        let (key, rest) ← scanString rest
        match skipBlanks rest with
        | ':' :: rest => do
          let (v, rest) ← value? fuel rest
          let (ms, rest) ← members? fuel false rest
          return ((key, v) :: ms, rest)
        | _ => none
      | _ => none
    | [] => none

end

def ofText? (s : String) : Option Document := do
  let cs := s.toList
  let (v, rest) ← value? (2 * cs.length + 2) cs
  if skipBlanks rest = [] then some v else none

/-! ## What is passed over -/

mutual

def depth : Document → Nat
  | array items => depthOfItems items + 1
  | object members => depthOfMembers members + 1
  | _ => 0

def depthOfItems : List Document → Nat
  | [] => 0
  | v :: vs => max (depth v) (depthOfItems vs)

def depthOfMembers : List (List Char × Document) → Nat
  | [] => 0
  | (_, v) :: ms => max (depth v) (depthOfMembers ms)

end

/-- The depth up to which a value can be passed over. -/
def maxDepth : Nat := 512

def canBeSkipped (d : Document) : Bool := d.depth ≤ maxDepth

/-! ## What is looked at -/

/-- The last member with a key; null counts as absent. -/
def member? (key : String) : Document → Option Document
  | object members =>
    match (members.reverse.find? fun (k, _) => text? k = some key).map (·.2) with
    | some null => none
    | found => found
  | _ => none

def asText? : Document → Option String
  | string spelled => text? spelled
  | _ => none

def asBool? : Document → Option Bool
  | bool b => some b
  | _ => none

/-- The bytes that a text of base64 digits stands for. Digits are never escaped. -/
def asBytes? : Document → Option Text.Utf8.Bytes
  | string spelled => Text.Base64.decode spelled
  | _ => none

end Document
end SearchDomain.Aws
