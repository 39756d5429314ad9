import SearchDomain.Text.WhiteSpace
/-!
# Endpoint — the base of the domain's URLs

An endpoint is configured as a bare host or as a URL; blanks around it and slashes at its end do not matter.
-/
namespace SearchDomain.Endpoint

def hasScheme (cs : List Char) : Bool := "http://".toList.isPrefixOf cs || "https://".toList.isPrefixOf cs

/-- The base URL of a configured endpoint; a bare host is reached by `https`. -/
def baseUrl (endpoint : String) : String :=
  let cs := Text.dropTailWhile (· == '/') (Text.trim endpoint.toList)
  if hasScheme cs then String.ofList cs else "https://" ++ String.ofList cs

/-- The URL of a path under a base; slashes in front of the path do not matter. -/
def url (base path : String) : String := base ++ "/" ++ String.ofList (path.toList.dropWhile (· == '/'))

end SearchDomain.Endpoint
