import SearchDomain.Decimal.Binary64
import SearchDomain.Table
/-!
# Value — JSON values

Whole numbers that fit 64 bits stay whole; all others are binary64. The members of an object keep the order in which
they are listed: objects that were read are tables, objects that are built to be written have the order of their
record.
-/
namespace SearchDomain

inductive JsonNumber
  | whole (n : Int)
  | float (x : Decimal.Binary64)
  deriving DecidableEq, Repr

inductive Json
  | null
  | bool (b : Bool)
  | number (n : JsonNumber)
  | string (s : String)
  | array (items : List Json)
  | object (members : List (String × Json))
  deriving Repr, Inhabited

namespace Json

def ofNat (n : Nat) : Json := .number (.whole n)

def strings (ss : List String) : Json := .array (ss.map .string)

/-- The object with these members in key order. -/
def ofMembers (members : List (String × Json)) : Json := .object (Table.ofList members)

def member? (key : String) : Json → Option Json
  | .object members => Table.get? key members
  | _ => none

end Json
end SearchDomain
