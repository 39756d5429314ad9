import SearchDomain.Text.Alphanumeric
import SearchDomain.Text.Utf8
/-!
# Region — where the managed services of a region are

Regions are grouped in partitions, each with a domain of its own. A region tells its partition by what stands in front
of its last two parts, or by being the one that stands for all of a partition; whatever is not recognised belongs to the
common partition. A region is part of an address, so it must be fit for one.
-/
namespace SearchDomain.Aws.Region

/-- A partition that does not live under the common domain: what its regions begin with, the region that stands for all
of them, and its domain. -/
structure Partition where
  stem : List String
  whole : Option String
  suffix : String
  deriving DecidableEq, Repr

def partitions : List Partition :=
  [ ⟨["cn"], some "aws-cn-global", "amazonaws.com.cn"⟩,
    ⟨["us", "iso"], some "aws-iso-global", "c2s.ic.gov"⟩,
    ⟨["us", "isob"], some "aws-iso-b-global", "sc2s.sgov.gov"⟩,
    ⟨["eu", "isoe"], some "aws-iso-e-global", "cloud.adc-e.uk"⟩,
    ⟨["us", "isof"], some "aws-iso-f-global", "csp.hci.ic.gov"⟩,
    ⟨["eusc", "de"], none, "amazonaws.eu"⟩ ]

def commonSuffix : String := "amazonaws.com"

def isWordChar (c : Char) : Bool := c.isAlphanum || c == '_'

/-- The parts in front of a word and a number. -/
def stem? (region : String) : Option (List String) :=
  match (region.toList.splitOn '-').reverse with
  | number :: word :: stem =>
    if number ≠ [] ∧ number.all Char.isDigit ∧ word ≠ [] ∧ word.all isWordChar then
      some (stem.reverse.map String.ofList)
    else none
  | _ => none

def Partition.has (p : Partition) (region : String) : Bool := p.whole == some region || stem? region == some p.stem

/-- The domain under which a region's services live. -/
def suffix (region : String) : String := ((partitions.find? (·.has region)).map (·.suffix)).getD commonSuffix

/-- The longest label of an address, in bytes. -/
def maxLabel : Nat := 63

/-- Letters, digits and hyphens, with no hyphen in front. -/
def isLabel (cs : List Char) : Bool :=
  cs ≠ [] && (Text.Utf8.encode cs).length ≤ maxLabel && cs.head? ≠ some '-'
    && cs.all fun c => Text.isAlphanumeric c || c == '-'

def isValid (region : String) : Bool := (region.toList.splitOn '.').all isLabel

def serviceUri? (service region : String) : Option String :=
  if isValid region then some ("https://" ++ service ++ "." ++ region ++ "." ++ suffix region) else none

end SearchDomain.Aws.Region
