import SearchDomain.Table
import SearchDomain.Text.Quoted
/-!
# SecretVersion — the versions of a secret and their stage labels

A secret has versions, a version carries labels. Two labels matter here: the version in use is current, the one being
prepared is pending.
-/
namespace SearchDomain

/-- The stages that a rotation moves a version through. -/
inductive Stage
  | current
  | pending
  deriving DecidableEq, Repr

namespace Stage

/-- The label of a stage. -/
def label : Stage → String
  | current => "AWSCURRENT"
  | pending => "AWSPENDING"

def ofLabel? (s : String) : Option Stage :=
  if s = current.label then some current else if s = pending.label then some pending else none

def name : Stage → String
  | current => "Current"
  | pending => "Pending"

end Stage

/-- The label of the version that was current before. -/
def previousLabel : String := "AWSPREVIOUS"

/-- Which version of a secret to read: the one with a stage, or one by its id that must also have the stage. -/
inductive Selector
  | stage (stage : Stage)
  | version (id : String) (stage : Stage)
  deriving DecidableEq, Repr

namespace Selector

def wanted : Selector → Stage
  | stage s => s
  | version _ s => s

def id? : Selector → Option String
  | stage _ => none
  | version id _ => some id

/-- How a message names the selector. -/
def describe : Selector → String
  | stage s => "Stage(" ++ s.name ++ ")"
  | version id s => "Version \x7b id: " ++ Text.quoted id ++ ", stage: " ++ s.name ++ " \x7d"

end Selector

/-- A value found in the store, with the version that holds it. -/
structure SecretValue where
  version : String
  text : String
  deriving DecidableEq, Repr

/-- What a rotation needs to know about a secret: whether it may be rotated, and the labels of each version. -/
structure Description where
  rotationEnabled : Bool
  versions : Table (List String)
  deriving DecidableEq, Repr

namespace Description

/-- The labels of a version, if there is such a version. -/
def labels? (d : Description) (version : String) : Option (List String) := Table.get? version d.versions

def hasStage (d : Description) (version : String) (stage : Stage) : Bool :=
  (d.labels? version).any (·.contains stage.label)

/-- The version that is current, if there is one. If there are two, it is the first in the order of ids, which is a
choice made here. -/
def current? (d : Description) : Option String :=
  (d.versions.find? (·.2.contains Stage.current.label)).map (·.1)

end Description
end SearchDomain
