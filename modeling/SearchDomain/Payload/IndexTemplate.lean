import SearchDomain.Json.Value
/-!
# IndexTemplate — how the indices of each kind of record are laid out
-/
namespace SearchDomain.Payload

/-- An index template: the pattern of the indices it is for, and the type of each property. -/
structure IndexTemplate where
  name : String
  pattern : String
  properties : List (String × String)
  deriving DecidableEq, Repr

namespace IndexTemplate

def document (t : IndexTemplate) : Json :=
  .ofMembers [
    ("index_patterns", .strings [t.pattern]),
    ("priority", .ofNat 100),
    ("template", .ofMembers [
      ("settings", .ofMembers [("number_of_shards", .ofNat 1), ("number_of_replicas", .ofNat 1)]),
      ("mappings", .ofMembers [
        ("properties", .ofMembers (t.properties.map fun (name, type) =>
          (name, .ofMembers [("type", .string type)])))])])]

def logs : IndexTemplate where
  name := "spark_logs"
  pattern := "spark-logs*"
  properties := [
    ("@timestamp", "date"),
    ("applicationId", "keyword"),
    ("jobRunId", "keyword"),
    ("containerId", "keyword"),
    ("logLevel", "keyword"),
    ("logger", "keyword"),
    ("thread", "keyword"),
    ("message", "text")]

def taskMetrics : IndexTemplate where
  name := "spark_task_metrics"
  pattern := "spark-task-metrics*"
  properties := [
    ("@timestamp", "date"),
    ("applicationId", "keyword"),
    ("jobRunId", "keyword"),
    ("stageId", "integer"),
    ("stageAttemptId", "integer"),
    ("taskId", "long"),
    ("executorId", "keyword"),
    ("host", "keyword"),
    ("executorRunTime", "long"),
    ("executorCpuTime", "long"),
    ("jvmGcTime", "long"),
    ("recordsRead", "long"),
    ("bytesRead", "long"),
    ("shuffleRecordsRead", "long"),
    ("shuffleBytesWritten", "long"),
    ("memoryBytesSpilled", "long"),
    ("diskBytesSpilled", "long")]

def stageMetrics : IndexTemplate where
  name := "spark_stage_agg_metrics"
  pattern := "spark-stage-agg-metrics*"
  properties := [
    ("@timestamp", "date"),
    ("applicationId", "keyword"),
    ("jobRunId", "keyword"),
    ("stageId", "integer"),
    ("stageAttemptId", "integer"),
    ("numTasks", "integer"),
    ("executorRunTimeMax", "long"),
    ("executorRunTimeAvg", "double"),
    ("executorRunTimeStddev", "double"),
    ("recordsReadMax", "long"),
    ("recordsReadAvg", "double"),
    ("recordsReadStddev", "double"),
    ("skewRatio", "double")]

/-- The templates in the order in which they are put. -/
def all : List IndexTemplate := [logs, taskMetrics, stageMetrics]

end IndexTemplate
end SearchDomain.Payload
