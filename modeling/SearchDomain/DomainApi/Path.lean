import SearchDomain.Text.Percent
/-!
# Path — where things live in the domain's REST API

Paths are relative to the endpoint. A name that comes from outside becomes one segment, percent-encoded.
-/
namespace SearchDomain.DomainApi.Path

def pipelineRole : String := "_opendistro/_security/api/roles/pipeline_role"

def pipelineRoleMapping : String := "_opendistro/_security/api/rolesmapping/pipeline_role"

def savedObjectsImport : String := "_dashboards/api/saved_objects/_import?overwrite=true"

def authInfo : String := "_plugins/_security/authinfo"

def internalUser (username : String) : String :=
  "_plugins/_security/api/internalusers/" ++ Text.Percent.component username

def indexTemplate (name : String) : String := "_index_template/" ++ Text.Percent.component name

def savedObject (kind id : String) : String :=
  "_dashboards/api/saved_objects/" ++ Text.Percent.component kind ++ "/" ++ Text.Percent.component id

/-- The header that the dashboards API wants on every call that changes something. -/
def dashboardsHeader : String × String := ("osd-xsrf", "true")

end SearchDomain.DomainApi.Path
