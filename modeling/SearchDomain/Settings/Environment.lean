import SearchDomain.Table
import SearchDomain.Text.Utf8
/-!
# Environment — variables of a process

A variable is unset, holds a text, or holds bytes that are no text. Whoever reads a variable as text sees nothing in
the last case, and whoever fills gaps overwrites it. No variable of a process holds a NUL, so texts with one are left
out of account.
-/
namespace SearchDomain.Settings

inductive Setting
  | unset
  | text (value : String)
  | undecodable
  deriving DecidableEq, Repr

/-- The value of every variable. -/
abbrev Environment := String → Setting

namespace Setting

def text? : Setting → Option String
  | text value => some value
  | _ => none

/-- The setting that these bytes are. -/
def ofBytes (bytes : Text.Utf8.Bytes) : Setting :=
  match Text.Utf8.decode bytes with
  | .ok value => text value
  | .error _ => undecodable

end Setting

namespace Environment

def ofTable (t : Table Setting) : Environment := fun name => (Table.get? name t).getD .unset

def text? (env : Environment) (name : String) : Option String := (env name).text?

def set (env : Environment) (name value : String) : Environment :=
  fun other => if other = name then .text value else env other

/-- Give a variable a text unless it has one. The text is without NUL, with which no variable could be set. -/
def fill (env : Environment) (name value : String) : Environment :=
  if (env.text? name).isSome then env else env.set name value

end Environment
end SearchDomain.Settings
