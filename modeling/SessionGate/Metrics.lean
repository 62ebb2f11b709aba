import SessionGate.Failure

/-!
# Metrics

A collector counts what one service does. Its counters have a value for every combination of label
values that has come up, and its histogram keeps the durations observed for every method and
endpoint. What is published are samples: names with labels and a value.

## Histograms

A histogram is published as one sample for each bound, which counts the durations up to that
bound. The last bound is infinite, so its sample is also the number of observations.
-/

namespace SessionGate

/-- Values by keys, in the order in which the keys came up. -/
abbrev Table (α β : Type) := List (α × β)

/-- Changes the value of a key, which is `start` for a key that is not there. -/
def Table.adjust {α β : Type} [DecidableEq α] (key : α) (start : β) (f : β → β) :
    Table α β → Table α β
  | [] => [(key, f start)]
  | (k, v) :: rest => if k = key then (k, f v) :: rest else (k, v) :: Table.adjust key start f rest

/-- The value of a key, `start` for a key that is not there. -/
def Table.valueOf {α β : Type} [DecidableEq α] (key : α) (start : β) : Table α β → β
  | [] => start
  | (k, v) :: rest => if k = key then v else Table.valueOf key start rest

/-! ## What is measured -/

inductive Counter where
  | requests
  | healthChecks
  | errors
  | authOperations
  deriving DecidableEq, Repr

namespace Counter

def name : Counter → String
  | requests => "http_requests_total"
  | healthChecks => "health_check_total"
  | errors => "errors_total"
  | authOperations => "auth_operations_total"

def labelNames : Counter → List String
  | requests => ["method", "endpoint", "status_code"]
  | healthChecks => ["status"]
  | errors => ["error_type", "service"]
  | authOperations => ["operation", "outcome"]

/-- The counters of a service: operations on sessions are counted by the service that has them. -/
def ofService (service : String) : List Counter :=
  [requests, healthChecks, errors] ++ if service = "auth" then [authOperations] else []

end Counter

inductive MetricKind where
  | info
  | counter
  | histogram
  deriving DecidableEq, Repr

/-- What is published: a name with labels and a value. -/
structure Sample where
  name : String
  labels : List (String × Text)
  value : Binary64
  deriving DecidableEq, Repr

/-! ## Durations -/

namespace Duration

def name : String := "http_request_duration_seconds"

def labelNames : List String := ["method", "endpoint"]

/-- The finite bounds as decimals. -/
def decimals : List (Nat × Int) :=
  [(5, -3), (1, -2), (25, -3), (5, -2), (75, -3), (1, -1), (25, -2), (5, -1), (75, -2), (1, 0),
    (25, -1), (5, 0), (75, -1), (1, 1)]

def bounds : List Binary64 :=
  decimals.map (fun d ↦ .ofDecimal false d.1 d.2) ++ [.infinite false]

/-- How a bound is written. -/
def boundText : Binary64 → String
  | .infinite false => "+Inf"
  | x => (Json.float x).literal

/-- A duration in seconds, which may be any number. -/
def ofJson (v : Json) : Except Defect Binary64 :=
  match v with
  | .float x => .ok x
  | .int n =>
    let x := Binary64.ofInt n
    if x.isFinite then .ok x else .error .tooLarge
  | .bool b => .ok (.ofNat (if b then 1 else 0))
  | _ => .error .wrongType

def between (a b : Moment) : Binary64 :=
  Moment.secondsOf (b.instant - a.instant)

/-- How many of the durations are within a bound. -/
def countWithin (durations : List Binary64) (bound : Binary64) : Nat :=
  durations.countP fun x ↦ x.le bound

/-- The samples of the durations observed for some label values. -/
def samples (values : List Text) (durations : List Binary64) : List Sample :=
  let labels := labelNames.zip values
  let count (bound : Binary64) : Binary64 := .ofNat (countWithin durations bound)
  bounds.map (fun b ↦ ⟨name ++ "_bucket", labels ++ [("le", .plain (boundText b))], count b⟩) ++
    [⟨name ++ "_count", labels, count (.infinite false)⟩,
      ⟨name ++ "_sum", labels, durations.foldl .add .zero⟩]

end Duration

/-! ## Collectors -/

structure Collector where
  service : String
  counts : Table (Counter × List Text) Nat := []
  durations : Table (List Text) (List Binary64) := []
  deriving Repr

namespace Collector

def countOf (c : Collector) (counter : Counter) (values : List Text) : Nat :=
  c.counts.valueOf (counter, values) 0

/-- Counts one more; a counter the service does not have counts nothing. -/
def count (c : Collector) (counter : Counter) (values : List Text) : Collector :=
  if counter ∈ Counter.ofService c.service then
    { c with counts := c.counts.adjust (counter, values) 0 (· + 1) }
  else c

/-- Observes durations; the label values come up even if there are none. -/
def observe (c : Collector) (values : List Text) (durations : List Binary64) : Collector :=
  { c with durations := c.durations.adjust values [] (· ++ durations) }

/-- Records a request. It is counted first, so a duration that is no number leaves the count. -/
def recordRequest (c : Collector) (method endpoint status : Text)
    (duration : Except Defect Binary64) : Except Defect Unit × Collector :=
  let c := c.count .requests [method, endpoint, status]
  match duration with
  | .ok x => (.ok (), c.observe [method, endpoint] [x])
  | .error defect => (.error defect, c.observe [method, endpoint] [])

def recordHealth (c : Collector) (status : Text) : Collector :=
  c.count .healthChecks [status]

/-- Records an error, by default one of the service itself. -/
def recordError (c : Collector) (type service : Text) : Collector :=
  c.count .errors [type, if service = "" then c.service else service]

def recordOperation (c : Collector) (operation outcome : Text) : Collector :=
  c.count .authOperations [operation, outcome]

/-! ## Samples -/

/-- The release a collector names. -/
def version : String := "1.0.0"

def infoName : String := "service_info"

def infoSample (c : Collector) : Sample :=
  ⟨infoName ++ "_info", [("service", c.service), ("version", version)], .ofNat 1⟩

/-- A count is rounded once. A counter that is a double stops counting at `2 ^ 53`; counts past that
are not modelled. -/
def countSample (entry : (Counter × List Text) × Nat) : Sample :=
  ⟨entry.1.1.name, entry.1.1.labelNames.zip entry.1.2, .ofNat entry.2⟩

def samples (c : Collector) : List Sample :=
  c.infoSample :: c.counts.map countSample ++
    c.durations.flatMap fun entry ↦ Duration.samples entry.1 entry.2

def metric? (c : Collector) (name : String) : Option MetricKind :=
  if name = infoName then some .info
  else if name = Duration.name then some .histogram
  else if (Counter.ofService c.service).any (·.name = name) then some .counter
  else none

end Collector

end SessionGate
