import SearchDomain.Settings.Environment
import SearchDomain.Text.Alphanumeric
import SearchDomain.Text.WhiteSpace
/-!
# EnvFile — assignments that fill gaps of the environment

A line is blank, a comment, or `KEY = value` with an optional `export` in front. A value joins bare, single-quoted and
double-quoted pieces; outside single quotes a backslash makes a character literal and a dollar sign stands for the
value of a variable. Lines are applied in order; the first bad one ends the file, and what came before stays. Files with
a NUL are left out of account: an assignment of one cannot be carried out.
-/
namespace SearchDomain.Settings.EnvFile

/-- What a line says. -/
inductive Line
  | blank
  | assignment (name value : String)
  | bad
  deriving DecidableEq, Repr

/-! ## Values -/

/-- Where the reading of a value is: among plain characters, after a backslash, in single quotes, in the name of a
variable (with or without braces), or past the value. -/
inductive Phase
  | plain
  | escaped
  | single
  | name (braced : Bool) (name : List Char)
  | ended
  deriving DecidableEq, Repr

/-- The character that stands behind a backslash. -/
def escaped? (c : Char) : Option Char :=
  if c = 'n' then some '\n'
  else if c = '\\' ∨ c = '\'' ∨ c = '"' ∨ c = '$' ∨ c = ' ' then some c
  else none

def isGap (c : Char) : Bool := c == ' ' || c == '\t'

def push (c : Char) : Option (List Char) → Option (List Char) := Option.map (c :: ·)

def pushAll (s : String) : Option (List Char) → Option (List Char) := Option.map (s.toList ++ ·)

/-- The rest of a value, inside double quotes or not. `lookup` gives the text of a variable. -/
def readValue (lookup : String → String) : (double : Bool) → Phase → List Char → Option (List Char)
  | double, .plain, [] => if double then none else some []
  | double, .escaped, [] => if double then none else some []
  | _, .single, [] => none
  | double, .name braced name, [] => if braced || double then none else some (lookup (String.ofList name)).toList
  | _, .ended, [] => some []
  | double, .ended, c :: cs =>
    if isGap c then readValue lookup double .ended cs else if c = '#' then some [] else none
  | double, .escaped, c :: cs =>
    match escaped? c with
    | some x => push x (readValue lookup double .plain cs)
    | none => none
  | double, .single, c :: cs =>
    if c = '\'' then readValue lookup double .plain cs else push c (readValue lookup double .single cs)
  | double, .name braced name, c :: cs =>
    if Text.isAlphanumeric c then readValue lookup double (.name braced (name ++ [c])) cs
    else if braced then
      if c = '}' then pushAll (lookup (String.ofList name)) (readValue lookup double .plain cs)
      else readValue lookup double (.name true (name ++ [c])) cs
    else if c = '{' ∧ name = [] then readValue lookup double (.name true []) cs
    else
      pushAll (lookup (String.ofList name))
        (if c = '$' then readValue lookup double (.name false []) cs else push c (readValue lookup double .plain cs))
  | double, .plain, c :: cs =>
    if c = '$' then readValue lookup double (.name false []) cs
    else if c = '\\' then readValue lookup double .escaped cs
    else if c = '"' then readValue lookup (!double) .plain cs
    else if double then push c (readValue lookup double .plain cs)
    else if c = '\'' then readValue lookup double .single cs
    else if isGap c then readValue lookup double .ended cs
    else push c (readValue lookup double .plain cs)

/-! ## Lines -/

def isKeyStart (c : Char) : Bool := c.isAlpha || c == '_'

def isKeyChar (c : Char) : Bool := c.isAlphanum || c == '_' || c == '.'

/-- A key and the text after it and its blanks. -/
def readKey (cs : List Char) : Option (List Char × List Char) :=
  if cs.head?.any isKeyStart then some (cs.takeWhile isKeyChar, Text.trimStart (cs.dropWhile isKeyChar)) else none

def expectEqual : List Char → Option (List Char)
  | '=' :: cs => some cs
  | _ => none

/-- The key of an assignment and the text after its equal sign. `export` is a key only in front of one. -/
def readTarget (cs : List Char) : Option (List Char × List Char) := do
  let (key, rest) ← readKey cs
  match expectEqual rest with
  | some value => return (key, value)
  | none =>
    if key = "export".toList then
      let (key, rest) ← readKey rest
      return (key, ← expectEqual rest)
    else none

def readLine (lookup : String → String) (cs : List Char) : Line :=
  match Text.trimStart (Text.trimEnd cs) with
  | [] => .blank
  | '#' :: _ => .blank
  | cs =>
    match readTarget cs with
    | none => .bad
    | some (key, rest) =>
      let value := match Text.trimStart rest with
        | [] => some []
        | '#' :: _ => some []
        | rest => readValue lookup false .plain rest
      match value with
      | some value => .assignment (String.ofList key) (String.ofList value)
      | none => .bad

/-- The lines of a text, without their ends. -/
def lines (cs : List Char) : List (List Char) :=
  (cs.splitOn '\n').map fun line => if line.getLast? = some '\r' then line.dropLast else line

/-! ## Files -/

/-- What a name stands for in a value: the text of the variable, or nothing. -/
def lookup (env : Environment) (name : String) : String := (env.text? name).getD ""

/-- Apply lines up to the first bad one. -/
def applyLines : List (List Char) → Environment → Environment
  | [], env => env
  | line :: rest, env =>
    match readLine (lookup env) line with
    | .blank => applyLines rest env
    | .assignment name value => applyLines rest (env.fill name value)
    | .bad => env

/-- The environment with its gaps filled from the text of a file. -/
def apply (source : String) (env : Environment) : Environment := applyLines (lines source.toList) env

end SearchDomain.Settings.EnvFile
