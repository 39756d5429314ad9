import SearchDomain.Error
import SearchDomain.Json.Record
/-!
# Credential — the value of a secret

A secret holds the name and the password of an internal user as a small JSON document.
-/
namespace SearchDomain

structure Credential where
  username : String
  password : String
  deriving DecidableEq, Repr

namespace Credential

structure Draft where
  username : Option String := none
  password : Option String := none

def Draft.finish (d : Draft) : Except String Credential := do
  return { username := ← d.username.getDM (throw "username"), password := ← d.password.getDM (throw "password") }

def layout : Json.Layout Draft Credential where
  name := "Secret"
  fields :=
    [.of "username" (·.username) (fun x d => { d with username := some x }) false fun _ => Json.text,
      .of "password" (·.password) (fun x d => { d with password := some x }) false fun _ => Json.text]
  blank := {}
  finish := Draft.finish

/-- Read the value of a secret; the error names the secret. -/
def ofSecret (secret source : String) : Except Error Credential :=
  (layout.ofText source).mapError fun misread =>
    .secretAccess secret ("malformed secret payload: " ++ misread.message)

def toJson (c : Credential) : Json := .object [("username", .string c.username), ("password", .string c.password)]

def toText (c : Credential) : String := c.toJson.render

/-- A text for logs, without the password. -/
def redacted (c : Credential) : String :=
  "Secret \x7b username: " ++ Text.quoted c.username ++ ", password: " ++ Text.quoted "<redacted>" ++ " \x7d"

end Credential
end SearchDomain
