import SearchDomain.Error
import SearchDomain.SecretVersion
/-!
# SecretStore — secrets with labelled versions, in memory

The store of a rehearsal. It keeps what the managed store keeps: for each secret whether it may be rotated, and for
each version a value, unless none has been stored yet, and labels. A label that is put lives on one version only; a
promotion moves the label for the version in use.
-/
namespace SearchDomain

/-- A version of a secret, with its value if one has been stored. A value is never the empty text. -/
structure StoredVersion where
  value : Option String
  labels : List String
  deriving DecidableEq, Repr

structure StoredSecret where
  rotationEnabled : Bool := true
  versions : Table StoredVersion := []
  deriving DecidableEq, Repr

abbrev SecretStore := Table StoredSecret

namespace StoredVersion

def drop (label : String) (v : StoredVersion) : StoredVersion := { v with labels := v.labels.filter (· ≠ label) }

def add (label : String) (v : StoredVersion) : StoredVersion := { v with labels := v.labels ++ [label] }

/-- Whether a version is one that the selector asks for: it has a value, the id if one is given, and the stage. -/
def matchesSelector (selector : Selector) (id : String) (v : StoredVersion) : Bool :=
  v.value.isSome && selector.id?.all (· == id) && v.labels.contains selector.wanted.label

end StoredVersion

namespace SecretStore

def missing (secret : String) : Error := .secretAccess secret "ResourceNotFoundException"

def describe (store : SecretStore) (secret : String) : Except Error Description :=
  match Table.get? secret store with
  | none => .error (missing secret)
  | some s => .ok ⟨s.rotationEnabled, Table.mapValues (·.labels) s.versions⟩

/-- The first version that the selector asks for. Which is the first makes a difference only if a stage is on two
versions; the order of ids is a choice made here. -/
def getValue (store : SecretStore) (secret : String) (selector : Selector) : Option SecretValue := do
  let s ← Table.get? secret store
  let (id, v) ← s.versions.find? fun (id, v) => v.matchesSelector selector id
  return ⟨id, ← v.value⟩

/-- Store a value under a version that takes the stage from all others. -/
def putValue (store : SecretStore) (secret token value : String) (stage : Stage) : SecretStore :=
  let s := (Table.get? secret store).getD { rotationEnabled := false }
  let versions := Table.mapValues (StoredVersion.drop stage.label) s.versions
  Table.set secret { s with versions := Table.set token ⟨some value, [stage.label]⟩ versions } store

/-- Take the current label from `source`, which becomes the previous version, and give it to `target`. An unknown
target is found out only after the source has lost the label. -/
def promote (store : SecretStore) (secret target : String) (source : Option String) : Except Error Unit × SecretStore :=
  match Table.get? secret store with
  | none => (.error (missing secret), store)
  | some s =>
    let demoted := match source with
      | none => s.versions
      | some id => Table.modify id (fun v => (v.drop Stage.current.label).add previousLabel) s.versions
    match Table.get? target demoted with
    | none =>
      (.error (.secretAccess secret "unknown version"), Table.set secret { s with versions := demoted } store)
    | some _ =>
      let promoted := Table.modify target (fun v => (v.drop Stage.pending.label).add Stage.current.label) demoted
      (.ok (), Table.set secret { s with versions := promoted } store)

end SecretStore
end SearchDomain
