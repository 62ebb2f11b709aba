import SessionGate.Metrics

/-!
# How the metrics of a collector are registered

A collector makes its metrics one after the other, and a metric is registered as it is made. A
registry knows the names that are taken: those of its metrics and those of their samples. A metric
of which one name is taken is refused. The metrics that were made before it stay registered then,
and those that come after it are not made.
-/

namespace SessionGate

/-- What a collector is made of. -/
inductive Metric where
  | info
  | durations
  | counter (counter : Counter)
  deriving DecidableEq, Repr

namespace Metric

/-- The metrics of a service, in the order in which they are made. -/
def ofService (service : String) : List Metric :=
  [info, counter .requests, durations, counter .healthChecks, counter .errors] ++
    if service = "auth" then [counter .authOperations] else []

/-- The name that the names of the samples begin with. -/
def stem : Metric → String
  | info => Collector.infoName
  | durations => Duration.name
  | counter .requests => "http_requests"
  | counter .healthChecks => "health_check"
  | counter .errors => "errors"
  | counter .authOperations => "auth_operations"

/-- What the names of the samples end with. -/
def endings : Metric → List String
  | info => ["_info"]
  | durations => ["_bucket", "_sum", "_count", "_created"]
  | counter _ => ["_total", "_created"]

def names (m : Metric) : List String :=
  m.stem :: m.endings.map (m.stem ++ ·)

/-- Registers metrics where some names are taken, up to the first that is refused. -/
def register (taken : List String) : List Metric → Except Defect Unit × List String
  | [] => (.ok (), taken)
  | m :: rest =>
    if m.names.any taken.contains then (.error .duplicateMetric, taken)
    else register (taken ++ m.names) rest

end Metric

end SessionGate
