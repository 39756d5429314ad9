import SearchDomain.Json.Reader
import SearchDomain.Json.Skip
/-!
# Record — objects with known fields

A record is written as an object, its fields in any order and unknown members passed over, or as a list of its
fields in the order of the layout. While it is read the fields gather in a draft; a field that is read twice, or that
is still missing at the end, is a fault without a place of its own, which takes the place reached by trying to close
the bracket.
-/
namespace SearchDomain.Json

/-- A field of a record with drafts `δ`: its name, whether a draft has it, and how it is read into a draft. A list may
end before a field that is `omittable`. -/
structure Field (δ : Type) where
  name : String
  filled : δ → Bool
  read : Nat → δ → Reader δ
  omittable : Bool

/-- The fields of a record and how a draft is completed; `finish` names the first field that is missing. -/
structure Layout (δ α : Type) where
  name : String
  fields : List (Field δ)
  blank : δ
  finish : δ → Except String α

/-- Why the fields of a record could not be read: a fault with its place, or a reason met before this text. -/
inductive Halt
  | placed (fault : Fault)
  | unplaced (reason : Reason) (rest : List Char)

namespace Halt

def lift {α : Type} : Except Fault α → Except Halt α := Except.mapError Halt.placed

/-- The fault of a record: without a place of its own it lies where closing the bracket has led. -/
def fault (close : List Char → Option Fault × List Char) : Halt → Fault
  | placed fault => fault
  | unplaced reason rest => ⟨reason, (close rest).2, 0⟩

end Halt

/-- A field that holds what `read` takes. -/
def Field.of {δ α : Type} (name : String) (get : δ → Option α) (set : α → δ → δ) (omittable : Bool)
    (read : Nat → Reader α) : Field δ where
  name
  filled d := (get d).isSome
  read depth d := fun cs => (read depth cs).map fun (x, rest) => (set x d, rest)
  omittable

namespace Layout

variable {δ α : Type}

/-- One member: a known field that the draft does not have yet, or anything unknown. -/
def readMember (layout : Layout δ α) (depth : Nat) (draft : δ) (key : String) (cs : List Char) :
    Except Halt (δ × List Char) :=
  match layout.fields.find? (·.name = key) with
  | some field =>
    if field.filled draft then .error (.unplaced (.duplicateField key) cs)
    else Halt.lift do field.read depth draft (← expectColon cs)
  | none => Halt.lift do return (draft, ← skipValue (← expectColon cs))

/-- The members up to the closing bracket, which is left. -/
def readFields (layout : Layout δ α) (depth : Nat) :
    (fuel : Nat) → (first : Bool) → δ → List Char → Except Halt (δ × List Char)
  | 0, _, _, cs => .error (.placed ⟨.eofInObject, cs, 1⟩)
  | fuel + 1, first, draft, cs => do
    match ← Halt.lift (nextKey first cs) with
    | (none, rest) => return (draft, rest)
    | (some name, _) =>
      let (key, rest) ← Halt.lift (readString name)
      let (draft, rest) ← layout.readMember depth draft key rest
      readFields layout depth fuel false draft rest

/-- The fields in order, from the one numbered `index` on, up to the closing bracket, which is left. -/
def readPositions (layout : Layout δ α) (depth : Nat) :
    List (Field δ) → (index : Nat) → δ → List Char → Except Halt (δ × List Char)
  | [], _, draft, cs => .ok (draft, cs)
  | field :: fields, index, draft, cs => do
    match ← Halt.lift (nextItem (index == 0) cs) with
    | (none, rest) =>
      match (field :: fields).findIdx? (!·.omittable) with
      | some i => .error (.unplaced (.wrongLength (index + i) layout.name layout.fields.length) rest)
      | none => return (draft, rest)
    | (some item, _) =>
      let (draft, rest) ← Halt.lift (field.read depth draft item)
      readPositions layout depth fields (index + 1) draft rest

def complete (layout : Layout δ α) : Except Halt (δ × List Char) → Except Halt (α × List Char)
  | .error halt => .error halt
  | .ok (draft, rest) =>
    match layout.finish draft with
    | .ok x => .ok (x, rest)
    | .error name => .error (.unplaced (.missingField name) rest)

def closed (close : List Char → Option Fault × List Char) : Except Halt (α × List Char) → Except Fault (α × List Char)
  | .error halt => .error (halt.fault close)
  | .ok (x, rest) =>
    match close rest with
    | (none, rest) => .ok (x, rest)
    | (some fault, _) => .error fault

/-- A record, with `depth` brackets still to open. -/
def read (layout : Layout δ α) (depth : Nat) : Reader α := fun cs =>
  match skipBlanks cs with
  | [] => failNext .eofInValue []
  | '[' :: rest =>
    match depth with
    | 0 => failNext .tooDeep ('[' :: rest)
    | depth + 1 => closed closeList (layout.complete (layout.readPositions depth layout.fields 0 layout.blank rest))
  | '{' :: rest =>
    match depth with
    | 0 => failNext .tooDeep ('{' :: rest)
    | depth + 1 =>
      closed closeObject (layout.complete (layout.readFields depth (rest.length + 1) true layout.blank rest))
  | other => wrongType ("struct " ++ layout.name) other

def ofText (layout : Layout δ α) (source : String) : Except Misread α := readAll layout.read source

/-- The record with which a text begins, whatever follows it. -/
def leading? (layout : Layout δ α) (source : String) : Option α :=
  match layout.read maxDepth source.toList with
  | .ok (x, _) => some x
  | .error _ => none

end Layout
end SearchDomain.Json
