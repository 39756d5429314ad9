import SearchDomain.Error
import SearchDomain.Json.Value
import SearchDomain.Text.Utf8
/-!
# Request — requests to the domain's REST API and their answers
-/
namespace SearchDomain.DomainApi

inductive Method
  | get
  | put
  | post
  | patch
  | delete
  deriving DecidableEq, Repr

namespace Method

def name : Method → String
  | get => "GET"
  | put => "PUT"
  | post => "POST"
  | patch => "PATCH"
  | delete => "DELETE"

def ofName? (s : String) : Option Method := [get, put, post, patch, delete].find? (·.name = s)

end Method

/-- The body of a request: nothing, a JSON document, or one file sent as a form. -/
inductive Body
  | empty
  | json (document : Json)
  | file (name : String) (content : Text.Utf8.Bytes)
  deriving Repr

/-- A request; its path is relative to the endpoint. -/
structure Request where
  method : Method
  path : String
  headers : List (String × String) := []
  body : Body := .empty
  deriving Repr

namespace Request

def withHeader (r : Request) (header : String × String) : Request := { r with headers := r.headers ++ [header] }

def withJson (r : Request) (document : Json) : Request := { r with body := .json document }

def withFile (r : Request) (name content : String) : Request :=
  { r with body := .file name (Text.Utf8.ofString content) }

end Request

/-- The answer to a request, whatever its status. -/
structure Response where
  status : Nat
  body : String
  deriving DecidableEq, Repr

namespace Response

def isSuccess (r : Response) : Bool := 200 ≤ r.status && r.status < 300

/-- The response itself if it is a success, else the error that blames `context`. -/
def ensureSuccess (r : Response) (context : String) : Except Error Response :=
  if r.isSuccess then .ok r else .error (.configuration context r.status r.body)

end Response
end SearchDomain.DomainApi
