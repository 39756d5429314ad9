import SearchDomain.Json.Writer
import SearchDomain.Text.Quoted
/-!
# Fault — why and where a text is not the document that was asked for

A reader works on the characters still unread, so a fault keeps those, and the place in the text is computed from
them once. Lines count from one; a column is the number of bytes since the line began. A fault seen by looking at
the next byte, or met by taking it, counts that byte as read (`ahead`), but never past the end.
-/
namespace SearchDomain.Json

/-- What stands where something else was expected. -/
inductive Found
  | null
  | bool (b : Bool)
  | number (n : JsonNumber)
  | string (s : String)
  | sequence
  | map
  deriving DecidableEq, Repr

def Found.describe : Found → String
  | .null => "null"
  | .bool b => "boolean `" ++ (if b then "true" else "false") ++ "`"
  | .number (.whole n) => "integer `" ++ String.ofList (writeNumber (.whole n)) ++ "`"
  | .number (.float x) => "floating point `" ++ String.ofList x.write ++ "`"
  | .string s => "string " ++ Text.quoted s
  | .sequence => "sequence"
  | .map => "map"

inductive Reason
  | eofInList
  | eofInObject
  | eofInString
  | eofInValue
  | expectedColon
  | expectedListEnd
  | expectedObjectEnd
  | expectedIdent
  | expectedValue
  | badEscape
  | badNumber
  | numberOutOfRange
  | controlInString
  | keyNotString
  | loneSurrogate
  | hexEscapeCut
  | trailingComma
  | trailingCharacters
  | tooDeep
  | wrongType (found : Found) (expected : String)
  | missingField (name : String)
  | duplicateField (name : String)
  | wrongLength (length : Nat) (record : String) (fields : Nat)
  deriving DecidableEq, Repr

def Reason.describe : Reason → String
  | .eofInList => "EOF while parsing a list"
  | .eofInObject => "EOF while parsing an object"
  | .eofInString => "EOF while parsing a string"
  | .eofInValue => "EOF while parsing a value"
  | .expectedColon => "expected `:`"
  | .expectedListEnd => "expected `,` or `]`"
  | .expectedObjectEnd => "expected `,` or `\x7d`"
  | .expectedIdent => "expected ident"
  | .expectedValue => "expected value"
  | .badEscape => "invalid escape"
  | .badNumber => "invalid number"
  | .numberOutOfRange => "number out of range"
  | .controlInString => "control character (\\u0000-\\u001F) found while parsing a string"
  | .keyNotString => "key must be a string"
  | .loneSurrogate => "lone leading surrogate in hex escape"
  | .hexEscapeCut => "unexpected end of hex escape"
  | .trailingComma => "trailing comma"
  | .trailingCharacters => "trailing characters"
  | .tooDeep => "recursion limit exceeded"
  | .wrongType found expected => "invalid type: " ++ found.describe ++ ", expected " ++ expected
  | .missingField name => "missing field `" ++ name ++ "`"
  | .duplicateField name => "duplicate field `" ++ name ++ "`"
  | .wrongLength length record fields =>
    s!"invalid length {length}, expected struct {record} with {fields} element" ++ (if fields = 1 then "" else "s")

/-- A reason, the text that was still unread, and the number of its bytes that count as read. -/
structure Fault where
  reason : Reason
  rest : List Char
  ahead : Nat
  deriving DecidableEq, Repr

/-- A reader takes a value off the front of a text. -/
abbrev Reader (α : Type) := List Char → Except Fault (α × List Char)

def fail {α : Type} (reason : Reason) (rest : List Char) : Except Fault α := .error ⟨reason, rest, 0⟩

/-- A fault at the byte that comes next. -/
def failNext {α : Type} (reason : Reason) (rest : List Char) : Except Fault α := .error ⟨reason, rest, 1⟩

def byteLength (cs : List Char) : Nat := cs.foldl (fun n c => n + c.utf8Size) 0

/-- A place in a text: the line, from one on, and the bytes read of it. -/
structure Place where
  line : Nat
  column : Nat
  deriving DecidableEq, Repr

/-- The place after the first `count` bytes of a text that begins at `place`. -/
def Place.advance (place : Place) : List Char → (count : Nat) → Place
  | [], _ => place
  | c :: cs, count =>
    if count = 0 then place
    else if count < c.utf8Size then ⟨place.line, place.column + count⟩
    else advance (if c = '\n' then ⟨place.line + 1, 0⟩ else ⟨place.line, place.column + c.utf8Size⟩) cs
      (count - c.utf8Size)

/-- Why a whole text could not be read, and where. -/
structure Misread where
  reason : Reason
  place : Place
  deriving DecidableEq, Repr

/-- The fault as seen from the whole text. -/
def Fault.locate (text : List Char) (fault : Fault) : Misread :=
  ⟨fault.reason, Place.advance ⟨1, 0⟩ text (byteLength text - byteLength fault.rest + fault.ahead)⟩

def Misread.message (m : Misread) : String :=
  m.reason.describe ++ s!" at line {m.place.line} column {m.place.column}"

end SearchDomain.Json
