import SearchDomain.Error
import SearchDomain.Json.Reader
/-!
# Template — documents with one place to fill

A template is the text of a JSON document around one hole. The hole is filled with the JSON literal of a text, and the
whole is read as JSON, so no character of the text can leave its literal.
-/
namespace SearchDomain.Payload

/-- The text before and after the hole. -/
structure Template where
  before : String
  after : String
  deriving DecidableEq, Repr

namespace Template

def fill (t : Template) (s : String) : String := t.before ++ (Json.string s).render ++ t.after

def document (t : Template) (s : String) : Except Error Json := (Json.ofText (t.fill s)).mapError .serialization

end Template
end SearchDomain.Payload
