/-!
# Header — header fields of a message
-/
namespace SearchDomain.Http

/-- A field by its name and value. -/
abbrev Header := String × String

namespace Header

def isNameChar (c : Char) : Bool := c.isAlphanum || "!#$%&'*+-.^_`|~".toList.contains c

def maxName : Nat := 65535

def isName (cs : List Char) : Bool := cs ≠ [] && cs.length ≤ maxName && cs.all isNameChar

/-- The characters of a value: no controls but the tab. -/
def isValueChar (c : Char) : Bool := (0x20 ≤ c.toNat && c.toNat ≠ 0x7F) || c == '\t'

def isValue (cs : List Char) : Bool := cs.all isValueChar

def isSendable (h : Header) : Bool := isName h.1.toList && isValue h.2.toList

/-- The small letter of a capital; the sign for kelvin is one. Other capitals are in no name. -/
def lowerChar (c : Char) : Char := if c = '\u212a' then 'k' else c.toLower

/-- Names do not depend on case. -/
def lowerName (s : String) : String := String.ofList (s.toList.map lowerChar)

def values (name : String) (headers : List Header) : List String :=
  (headers.filter (lowerName ·.1 = name)).map (·.2)

def without (names : List String) (headers : List Header) : List Header :=
  headers.filter fun h => !names.contains (lowerName h.1)

end Header
end SearchDomain.Http
