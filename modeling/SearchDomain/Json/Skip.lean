import SearchDomain.Json.Scanner
/-!
# Skip — passing over a value that nobody asked for

The value is only looked at for its syntax, with a stack of the open brackets instead of a limit on their number.
-/
namespace SearchDomain.Json

inductive Bracket
  | list
  | object
  deriving DecidableEq, Repr

def Bracket.close : Bracket → Char
  | .list => ']'
  | .object => '}'

def Bracket.eof : Bracket → Reason
  | .list => .eofInList
  | .object => .eofInObject

def Bracket.expectedEnd : Bracket → Reason
  | .list => .expectedListEnd
  | .object => .expectedObjectEnd

/-- A key that nobody asked for, and its colon. -/
def skipKey (cs : List Char) : Except Fault (List Char) :=
  match skipBlanks cs with
  | [] => failNext .eofInObject []
  | '"' :: rest => do
    match skipBlanks (← skipString rest) with
    | [] => failNext .eofInObject []
    | ':' :: rest => .ok rest
    | other => failNext .expectedColon other
  | other => failNext .keyNotString other

/-- The key before the next item of an object; a list has none. -/
def skipItemKey : Bracket → List Char → Except Fault (List Char)
  | .list, cs => .ok cs
  | .object, cs => skipKey cs

def skipScalar : List Char → Except Fault (List Char)
  | 'n' :: cs => expectWord ['u', 'l', 'l'] cs
  | 't' :: cs => expectWord ['r', 'u', 'e'] cs
  | 'f' :: cs => expectWord ['a', 'l', 's', 'e'] cs
  | '"' :: cs => skipString cs
  | c :: cs => if c = '-' ∨ isDigit c then skipNumber (c :: cs) else failNext .expectedValue (c :: cs)
  | [] => failNext .eofInValue []

/-- What may come next: a value, or the end of the innermost bracket or, unless it has just been opened, a comma. -/
inductive Awaiting
  | value
  | item (opened : Bool)
  deriving DecidableEq, Repr

/-- Pass over the rest of a value inside the brackets of the stack. Every round takes a character or turns from an
opened bracket to its first value. -/
def skipFrom : (fuel : Nat) → Awaiting → List Bracket → List Char → Except Fault (List Char)
  | 0, _, _, cs => failNext .eofInValue cs
  | fuel + 1, .value, stack, cs =>
    match skipBlanks cs with
    | '[' :: rest => skipFrom fuel (.item true) (.list :: stack) rest
    | '{' :: rest => skipFrom fuel (.item true) (.object :: stack) rest
    | other => do skipFrom fuel (.item false) stack (← skipScalar other)
  | _ + 1, .item _, [], cs => .ok cs
  | fuel + 1, .item opened, bracket :: stack, cs =>
    match skipBlanks cs with
    | [] => failNext bracket.eof []
    | c :: rest =>
      if c = ',' ∧ !opened then do skipFrom fuel .value (bracket :: stack) (← skipItemKey bracket rest)
      else if c = bracket.close then skipFrom fuel (.item false) stack rest
      else if opened then do skipFrom fuel .value (bracket :: stack) (← skipItemKey bracket (c :: rest))
      else failNext bracket.expectedEnd (c :: rest)

def skipValue (cs : List Char) : Except Fault (List Char) := skipFrom (2 * cs.length + 2) .value [] cs

end SearchDomain.Json
