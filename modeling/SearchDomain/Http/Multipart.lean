import SearchDomain.Text.Utf8
/-!
# Multipart — one file as a form

The body of a form with a single field named `file`: a delimiter, the headers of the part, an empty line, the content
and a closing delimiter.
-/
namespace SearchDomain.Http.Multipart

open Text.Utf8 (Bytes ofString)

/-- The start of a boundary; a random part follows. -/
def boundaryDashes : String := "------------------------"

def contentType (boundary : String) : String := "multipart/form-data; boundary=" ++ boundary

def partHeaders (fileName : String) : String :=
  "Content-Disposition: form-data; name=\"file\"; filename=\"" ++ fileName ++ "\"\r\n"
    ++ "Content-Type: application/ndjson\r\n"

def write (boundary fileName : String) (content : Bytes) : Bytes :=
  ofString ("--" ++ boundary ++ "\r\n" ++ partHeaders fileName ++ "\r\n") ++ content
    ++ ofString ("\r\n--" ++ boundary ++ "--\r\n")

end SearchDomain.Http.Multipart
