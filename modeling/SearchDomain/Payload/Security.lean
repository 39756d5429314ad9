import SearchDomain.Payload.Template
/-!
# Security — the role of the pipeline, its mapping, and the internal users
-/
namespace SearchDomain.Payload

/-- What the ingestion pipeline may do. -/
def pipelineRole : Json :=
  .ofMembers [
    ("cluster_permissions", .strings [
      "cluster_monitor",
      "cluster_composite_ops",
      "indices:admin/template/get",
      "indices:admin/template/put",
      "indices:admin/index_template/get",
      "indices:admin/index_template/put",
      "cluster:admin/ingest/pipeline/put",
      "cluster:admin/ingest/pipeline/get"]),
    ("index_permissions", .array [
      .ofMembers [
        ("index_patterns", .strings ["spark-*"]),
        ("allowed_actions", .strings [
          "crud",
          "create_index",
          "indices:admin/mapping/put",
          "indices:admin/mappings/get"])]])]

def mappingTemplate : Template where
  before := "\x7b\n  \"backend_roles\": ["
  after := "],\n  \"hosts\": [],\n  \"users\": []\n\x7d\n"

/-- The mapping of one cloud role to the pipeline's role. -/
def pipelineRoleMapping (role : String) : Except Error Json := mappingTemplate.document role

/-- The internal users that the bootstrap manages. -/
inductive InternalUser
  | admin
  | readOnly
  deriving DecidableEq, Repr

namespace InternalUser

def template : InternalUser → Template
  | admin => {
      before := "\x7b\n  \"password\": "
      after := ",\n  \"opendistro_security_roles\": [\"all_access\", \"security_manager\"],\n" ++
        "  \"backend_roles\": [],\n  \"attributes\": \x7b\x7d\n\x7d\n" }
  | readOnly => {
      before := "\x7b\n  \"password\": "
      after := ",\n  \"opendistro_security_roles\": [\"readall\", \"opensearch_dashboards_read_only\"],\n" ++
        "  \"backend_roles\": [],\n  \"attributes\": \x7b\x7d\n\x7d\n" }

def document (user : InternalUser) (password : String) : Except Error Json := user.template.document password

end InternalUser
end SearchDomain.Payload
