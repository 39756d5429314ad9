import SearchDomain.Idna.Direction
import SearchDomain.Idna.Joining
import SearchDomain.Idna.Punycode
import SearchDomain.Text.Composed
/-!
# Name — names of any script as the network knows them

A name is mapped to plain characters, composed, and cut at its dots. A label that is not ASCII is written with a mark
in front and its characters in letters, digits and hyphens; a label that carries the mark already must be what writing
makes of a good label.
-/
namespace SearchDomain.Idna

open Punycode (isAscii)

/-- What stands in front of a written label. -/
def acePrefix : List Char := "xn--".toList

def isWritten (label : List Char) : Bool := acePrefix.isPrefixOf label

/-- The longest label that is written, and the longest written form that is read. -/
def maxLabel : Nat := 1000

def maxWritten : Nat := 2000

/-- A label does not start with a mark, and its joiners are in their places. -/
def isWellFormed (label : List Char) : Bool :=
  !label.head?.any Text.isMark && Joining.areInPlace [] label && (label.all isAscii || label.length ≤ maxLabel)

/-- The label of a written form: one that nothing has to be done to. -/
def readLabel? (written : List Char) : Option (List Char) :=
  if written.getLast?.all (· == '-') || maxWritten < written.length then none
  else (Punycode.decode? written).filter fun label =>
    label.all (status · == .valid) && Text.composed label == label && isWellFormed label

/-- A label as its characters are, if it is a good one. -/
def label? (label : List Char) : Option (List Char) :=
  if isWritten label then readLabel? (label.drop acePrefix.length)
  else if isWellFormed label then some label
  else none

def writeLabel (label : List Char) : List Char :=
  if label.all isAscii then label else acePrefix ++ Punycode.encode label

/-- Whether the labels of a name read in one direction each, if that matters for one of them. -/
def areUniform (labels : List (List Char)) : Bool :=
  !labels.any Direction.mattersIn || labels.all Direction.isUniform

/-- The labels of a name in any spelling. -/
def labels? (cs : List Char) : Option (List (List Char)) := do
  let labels ← ((Text.composed (← mapped? cs)).splitOn '.').mapM label?
  if areUniform labels then some labels else none

/-- A name for which nothing but the case of letters can change. -/
def isPlain (cs : List Char) : Bool := cs.all isAscii && !(cs.splitOn '.').any isWritten

def toAscii? (cs : List Char) : Option (List Char) :=
  let small := cs.map Char.toLower
  if isPlain small then some small else (labels? cs).map fun labels => List.intercalate ['.'] (labels.map writeLabel)

end SearchDomain.Idna
