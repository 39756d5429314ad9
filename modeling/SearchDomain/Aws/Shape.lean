import SearchDomain.Aws.Document
/-!
# Shape — what a reply's members must be

Null stands for an absent member everywhere but among the items of a list and the values of a map. Members that a
record does not know are passed over, but their keys must be texts and their values not too deep.
-/
namespace SearchDomain.Aws

inductive Shape
  | text
  | flag
  /-- A whole number from `-limit` up to, and without, `limit`. -/
  | whole (limit : Nat)
  | time
  | blob
  | list (item : Shape)
  | map (value : Shape)
  | record (fields : List (String × Shape))
  deriving Repr, Inhabited

namespace Shape

def int : Shape := whole 0x80000000

def long : Shape := whole 0x8000000000000000

/-- The largest floating-point number that passes for one below a limit: the number before the limit, rounded. -/
def largest (limit : Nat) : Nat :=
  match Decimal.Binary64.ofNat? (limit - 1) with
  | some x => x.ratio.1 / x.ratio.2
  | none => 0

def isWhole (limit : Nat) : JsonNumber → Bool
  | .whole n => -(limit : Int) ≤ n && n < limit
  | .float x =>
    let (n, d) := x.ratio
    n % d == 0 && n / d ≤ (if x.negative then limit else largest limit)

mutual

def accepts (shape : Shape) : Document → Bool
  | .null => true
  | .bool _ =>
    match shape with
    | .flag => true
    | _ => false
  | .number n =>
    match shape with
    | .whole limit => n.any (isWhole limit)
    | .time => n.isSome
    | _ => false
  | .string spelled =>
    match shape with
    | .text => (Document.text? spelled).isSome
    | .blob => (Text.Base64.decode spelled).isSome
    | _ => false
  | .array items =>
    match shape with
    | .list item => acceptsItems item items
    | _ => false
  | .object members =>
    match shape with
    | .map value => acceptsValues value members
    | .record fields => acceptsMembers fields members
    | _ => false

/-- Every item has the shape and is there. -/
def acceptsItems (shape : Shape) : List Document → Bool
  | [] => true
  | .null :: _ => false
  | v :: vs => accepts shape v && acceptsItems shape vs

/-- Every value has the shape and is there. -/
def acceptsValues (shape : Shape) : List (List Char × Document) → Bool
  | [] => true
  | (_, .null) :: _ => false
  | (k, v) :: ms => (Document.text? k).isSome && accepts shape v && acceptsValues shape ms

/-- Every member that the record knows has its shape. -/
def acceptsMembers (fields : List (String × Shape)) : List (List Char × Document) → Bool
  | [] => true
  | (k, v) :: ms =>
    (match Document.text? k with
    | none => false
    | some key =>
      match Table.get? key fields with
      | some shape => accepts shape v
      | none => v.canBeSkipped)
      && acceptsMembers fields ms

end

def texts : Shape := list text

end Shape
end SearchDomain.Aws
