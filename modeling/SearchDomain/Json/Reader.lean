import SearchDomain.Json.Scanner
/-!
# Reader — lists, values and the typed leaves

One loop reads the items of every list, typed or not, and one step reads the next key of every object. A reader for
what may nest carries the number of brackets that may still open; a text may open `maxDepth` of them inside one
another.
-/
namespace SearchDomain.Json

/-- Brackets that may be open at once. -/
def maxDepth : Nat := 127

/-- A value of another type stands here: name it, taking all of it but a bracket. -/
def wrongType {α : Type} (expected : String) (cs : List Char) : Except Fault α :=
  let clash (found : Found) (rest : List Char) : Except Fault α := fail (.wrongType found expected) rest
  match cs with
  | 'n' :: rest => do clash .null (← expectWord ['u', 'l', 'l'] rest)
  | 't' :: rest => do clash (.bool true) (← expectWord ['r', 'u', 'e'] rest)
  | 'f' :: rest => do clash (.bool false) (← expectWord ['a', 'l', 's', 'e'] rest)
  | '"' :: rest => do
    let (s, rest) ← readString rest
    clash (.string s) rest
  | '[' :: _ => clash .sequence cs
  | '{' :: _ => clash .map cs
  | c :: _ =>
    if c = '-' ∨ isDigit c then do
      let (n, rest) ← readNumber cs
      clash (.number n) rest
    else failNext .expectedValue cs
  | [] => failNext .expectedValue []

def text : Reader String := fun cs =>
  match skipBlanks cs with
  | [] => failNext .eofInValue []
  | '"' :: rest => readString rest
  | other => wrongType "a string" other

def flag : Reader Bool := fun cs =>
  match skipBlanks cs with
  | [] => failNext .eofInValue []
  | 't' :: rest => (expectWord ['r', 'u', 'e'] rest).map (true, ·)
  | 'f' :: rest => (expectWord ['a', 'l', 's', 'e'] rest).map (false, ·)
  | other => wrongType "a boolean" other

/-- Null, or what `read` takes. -/
def optional {α : Type} (read : Reader α) : Reader (Option α) := fun cs =>
  match skipBlanks cs with
  | 'n' :: rest => (expectWord ['u', 'l', 'l'] rest).map (none, ·)
  | other => (read other).map fun (x, rest) => (some x, rest)

/-! ## Lists -/

/-- Go to the next item of an open list: none before a closing bracket. -/
def nextItem (first : Bool) (cs : List Char) : Except Fault (Option (List Char) × List Char) :=
  match skipBlanks cs with
  | [] => failNext .eofInList []
  | c :: rest =>
    if c = ']' then .ok (none, c :: rest)
    else if first then .ok (some (c :: rest), c :: rest)
    else if c = ',' then
      match skipBlanks rest with
      | [] => failNext .eofInValue []
      | d :: rest => if d = ']' then failNext .trailingComma (d :: rest) else .ok (some (d :: rest), d :: rest)
    else failNext .expectedListEnd (c :: rest)

/-- The items up to the closing bracket, which is left. -/
def readItems {α : Type} (read : Reader α) : (fuel : Nat) → (first : Bool) → Reader (List α)
  | 0, _, cs => failNext .eofInList cs
  | fuel + 1, first, cs => do
    match ← nextItem first cs with
    | (none, rest) => return ([], rest)
    | (some item, _) =>
      let (x, rest) ← read item
      let (xs, rest) ← readItems read fuel false rest
      return (x :: xs, rest)

/-- Close a list: the fault, if there is one, and the text then still unread. -/
def closeList (cs : List Char) : Option Fault × List Char :=
  match skipBlanks cs with
  | [] => (some ⟨.eofInList, [], 1⟩, [])
  | c :: rest =>
    if c = ']' then (none, rest)
    else if c = ',' then
      match skipBlanks rest with
      | d :: after =>
        (some ⟨if d = ']' then .trailingComma else .trailingCharacters, d :: after, 1⟩, d :: after)
      | [] => (some ⟨.trailingCharacters, [], 1⟩, [])
    else (some ⟨.trailingCharacters, c :: rest, 1⟩, c :: rest)

/-- The items of a list whose opening bracket has been taken, and the closing bracket. -/
def readList {α : Type} (read : Reader α) : Reader (List α) := fun cs => do
  let (xs, rest) ← readItems read (cs.length + 1) true cs
  match closeList rest with
  | (none, rest) => return (xs, rest)
  | (some fault, _) => throw fault

def sequence {α : Type} (depth : Nat) (read : Nat → Reader α) : Reader (List α) := fun cs =>
  match skipBlanks cs with
  | [] => failNext .eofInValue []
  | '[' :: rest =>
    match depth with
    | 0 => failNext .tooDeep ('[' :: rest)
    | depth + 1 => readList (read depth) rest
  | other => wrongType "a sequence" other

/-! ## Objects -/

/-- Go to the next key of an open object, opening quote taken: none before a closing bracket. -/
def nextKey (first : Bool) (cs : List Char) : Except Fault (Option (List Char) × List Char) :=
  match skipBlanks cs with
  | [] => failNext .eofInObject []
  | c :: rest =>
    if c = '}' then .ok (none, c :: rest)
    else if first then
      if c = '"' then .ok (some rest, rest) else failNext .keyNotString (c :: rest)
    else if c = ',' then
      match skipBlanks rest with
      | [] => failNext .eofInValue []
      | d :: rest =>
        if d = '"' then .ok (some rest, rest)
        else if d = '}' then failNext .trailingComma (d :: rest)
        else failNext .keyNotString (d :: rest)
    else failNext .expectedObjectEnd (c :: rest)

def expectColon (cs : List Char) : Except Fault (List Char) :=
  match skipBlanks cs with
  | [] => failNext .eofInObject []
  | c :: rest => if c = ':' then .ok rest else failNext .expectedColon (c :: rest)

/-- The members up to the closing bracket, which is left, in reading order. -/
def readMembers {α : Type} (read : Reader α) : (fuel : Nat) → (first : Bool) → Reader (List (String × α))
  | 0, _, cs => failNext .eofInObject cs
  | fuel + 1, first, cs => do
    match ← nextKey first cs with
    | (none, rest) => return ([], rest)
    | (some name, _) =>
      let (key, rest) ← readString name
      let (x, rest) ← read (← expectColon rest)
      let (xs, rest) ← readMembers read fuel false rest
      return ((key, x) :: xs, rest)

/-- Close an object: the fault, if there is one, and the text then still unread. -/
def closeObject (cs : List Char) : Option Fault × List Char :=
  match skipBlanks cs with
  | [] => (some ⟨.eofInObject, [], 1⟩, [])
  | c :: rest =>
    if c = '}' then (none, rest)
    else (some ⟨if c = ',' then .trailingComma else .trailingCharacters, c :: rest, 1⟩, c :: rest)

/-- The members of an object whose opening bracket has been taken, and the closing bracket. -/
def readObject {α : Type} (read : Reader α) : Reader (List (String × α)) := fun cs => do
  let (ms, rest) ← readMembers read (cs.length + 1) true cs
  match closeObject rest with
  | (none, rest) => return (ms, rest)
  | (some fault, _) => throw fault

/-! ## Values -/

/-- Any value, with `depth` brackets still to open. -/
def value : (depth : Nat) → Reader Json
  | depth, cs =>
    match skipBlanks cs with
    | [] => failNext .eofInValue []
    | 'n' :: rest => (expectWord ['u', 'l', 'l'] rest).map (.null, ·)
    | 't' :: rest => (expectWord ['r', 'u', 'e'] rest).map (.bool true, ·)
    | 'f' :: rest => (expectWord ['a', 'l', 's', 'e'] rest).map (.bool false, ·)
    | '"' :: rest => (readString rest).map fun (s, rest) => (.string s, rest)
    | '[' :: rest =>
      match depth with
      | 0 => failNext .tooDeep ('[' :: rest)
      | depth + 1 => (readList (value depth) rest).map fun (vs, rest) => (.array vs, rest)
    | '{' :: rest =>
      match depth with
      | 0 => failNext .tooDeep ('{' :: rest)
      | depth + 1 => (readObject (value depth) rest).map fun (ms, rest) => (.object (Table.ofList ms), rest)
    | c :: rest =>
      if c = '-' ∨ isDigit c then (readNumber (c :: rest)).map fun (n, rest) => (.number n, rest)
      else failNext .expectedValue (c :: rest)

/-- A free object: any members, of equal keys the last one counts. -/
def freeObject (depth : Nat) : Reader (List (String × Json)) := fun cs =>
  match skipBlanks cs with
  | [] => failNext .eofInValue []
  | '{' :: rest =>
    match depth with
    | 0 => failNext .tooDeep ('{' :: rest)
    | depth + 1 => (readObject (value depth) rest).map fun (ms, rest) => (Table.ofList ms, rest)
  | other => wrongType "a map" other

/-! ## Whole texts -/

/-- Read a whole text; only blanks may follow what `read` takes. -/
def readAll {α : Type} (read : Nat → Reader α) (source : String) : Except Misread α :=
  let cs := source.toList
  let outcome : Except Fault α := do
    let (x, rest) ← read maxDepth cs
    match skipBlanks rest with
    | [] => return x
    | other => failNext .trailingCharacters other
  outcome.mapError (Fault.locate cs)

def ofText (source : String) : Except Misread Json := readAll value source

end SearchDomain.Json
