import SearchDomain.Json.Writer
/-!
# Dashboard — the saved objects of the data-skew dashboard

Two index patterns, two visualisations over them and the dashboard that shows both. A bundle is one compact document
a line; some members hold the text of a document of their own.
-/
namespace SearchDomain.Payload

structure Bundle where
  fileName : String
  objects : List Json

namespace Bundle

/-- The content of the file: one line for every object. -/
def content (b : Bundle) : String := String.join (b.objects.map fun o => o.render ++ "\n")

end Bundle

namespace Dashboard

/-- A document within a document, as text. -/
def embedded (members : List (String × Json)) : Json := .string (Json.object members).render

def savedObject (kind id schemaVersion : String) (attributes references : Json) : Json :=
  .object [
    ("attributes", attributes),
    ("id", .string id),
    ("migrationVersion", .object [(kind, .string schemaVersion)]),
    ("references", references),
    ("type", .string kind),
    ("version", .string "1")]

def reference (kind id name : String) : Json :=
  .object [("id", .string id), ("name", .string name), ("type", .string kind)]

def indexPattern (id title : String) : Json :=
  savedObject "index-pattern" id "7.6.0"
    (.object [("fields", .string "[]"), ("timeFieldName", .string "@timestamp"), ("title", .string title)])
    (.array [])

def sourceName : String := "kibanaSavedObjectMeta.searchSourceJSON.index"

def aggregation (id kind role : String) (parameters : List (String × Json)) : Json :=
  .object [("id", .string id), ("type", .string kind), ("schema", .string role), ("params", .object parameters)]

def visualization (id title chart description pattern : String) (aggregations : List Json) : Json :=
  savedObject "visualization" id "7.10.0"
    (.object [
      ("description", .string description),
      ("kibanaSavedObjectMeta", .object [
        ("searchSourceJSON", embedded [
          ("query", .object [("query", .string ""), ("language", .string "kuery")]),
          ("filter", .array []),
          ("indexRefName", .string sourceName)])]),
      ("title", .string title),
      ("uiStateJSON", embedded []),
      ("version", .ofNat 1),
      ("visState", embedded [
        ("title", .string title), ("type", .string chart), ("aggs", .array aggregations)])])
    (.array [reference "index-pattern" pattern sourceName])

/-- One panel of the dashboard, at the horizontal position `x`. -/
def panel (index x : Nat) : Json :=
  .object [
    ("embeddableConfig", .object []),
    ("gridData", .object [
      ("h", .ofNat 15), ("i", .string (toString (index + 1))), ("w", .ofNat 24), ("x", .ofNat x), ("y", .ofNat 0)]),
    ("panelIndex", .string (toString (index + 1))),
    ("panelRefName", .string ("panel_" ++ toString index)),
    ("version", .string "2.11.0")]

def stageSkew : Json :=
  visualization "stage-skew-ratio" "Stage skew ratio" "histogram" "Skew ratio (max / avg task run time) per stage"
    "spark-stage-agg-metrics" [
      aggregation "1" "max" "metric" [("field", .string "skewRatio")],
      aggregation "2" "terms" "segment" [
        ("field", .string "stageId"), ("size", .ofNat 50), ("order", .string "desc"), ("orderBy", .string "1")]]

def taskRuntime : Json :=
  visualization "task-runtime-by-executor" "Task run time by executor" "line"
    "Task run time distribution per executor" "spark-task-metrics" [
      aggregation "1" "avg" "metric" [("field", .string "executorRunTime")],
      aggregation "2" "terms" "group" [("field", .string "executorId"), ("size", .ofNat 20)]]

def dashboard : Json :=
  savedObject "dashboard" "data-skew" "7.9.3"
    (.object [
      ("description", .string "Data skew across Spark stages"),
      ("hits", .ofNat 0),
      ("kibanaSavedObjectMeta", .object [
        ("searchSourceJSON", embedded [
          ("query", .object [("language", .string "kuery"), ("query", .string "")]),
          ("filter", .array [])])]),
      ("optionsJSON", embedded [("hidePanelTitles", .bool false), ("useMargins", .bool true)]),
      ("panelsJSON", .string (Json.array [panel 0 0, panel 1 24]).render),
      ("timeRestore", .bool false),
      ("title", .string "Data skew"),
      ("version", .ofNat 1)])
    (.array [
      reference "visualization" "stage-skew-ratio" "panel_0",
      reference "visualization" "task-runtime-by-executor" "panel_1"])

def bundle : Bundle where
  fileName := "data-skew.ndjson"
  objects := [
    indexPattern "spark-stage-agg-metrics" "spark-stage-agg-metrics*",
    indexPattern "spark-task-metrics" "spark-task-metrics*",
    stageSkew,
    taskRuntime,
    dashboard]

end Dashboard
end SearchDomain.Payload
