/-!
# Credentials — who signs
-/
namespace SearchDomain.Signature

structure Credentials where
  accessKey : String
  secretKey : String
  sessionToken : Option String := none
  deriving DecidableEq, Repr

/-- Where credentials come from: they are asked for at every request, and may then not be there. -/
inductive CredentialSource
  | fixed (credentials : Credentials)
  | failing (reason : String)
  deriving DecidableEq, Repr

def CredentialSource.provide : CredentialSource → Except String Credentials
  | .fixed credentials => .ok credentials
  | .failing reason => .error reason

end SearchDomain.Signature
