import SessionGate.Json.Printer
import SessionGate.Json.Reader
import SessionGate.Metrics

/-!
# Calls that record

Somebody who records something hands over values of any kind, and a collector keeps the texts of
those that are labels. So values with the same text are counted together, a status that is a number
and one that is its digits for instance. `MetricCall` is a call as it is made, and `RecordCall` is
one whose labels have been read.

## Calls without effect

A call with a label that has no text fails and records nothing. An operation is recorded by a
service that counts operations; any other service does not even look at it.
-/

namespace SessionGate

inductive RecordCall where
  | request (method endpoint status : Text) (duration : Except Defect Binary64)
  | health (status : Text)
  | error (type service : Text)
  | operation (name outcome : Text)

/-- How a call ends: a request may have a duration that is no number. -/
def RecordCall.outcome : RecordCall → Except Defect Unit
  | request _ _ _ duration => duration.map fun _ ↦ ()
  | _ => .ok ()

inductive MetricCall where
  | request (method endpoint status duration : Json)
  | health (status : Json)
  | error (type service : Json)
  | operation (name outcome : Json)
  deriving Repr

namespace MetricCall

def label (v : Json) : Except Defect Text :=
  match v.textFault? Json.depthLimit with
  | none => .ok v.display
  | some .tooLong => .error .unwritable
  | some .tooDeep => .error (.badDocument .tooDeep)

/-- The service that an error is recorded for; the empty text stands for the one that records it. -/
def serviceLabel (v : Json) : Except Defect Text :=
  if v.isSet then label v else .ok (.plain "")

/-- The call as the collector of a service takes it, if it takes it at all. -/
def read (service : String) : MetricCall → Except Defect (Option RecordCall)
  | request method endpoint status duration => do
    let status ← label status
    return some (.request (← label method) (← label endpoint) status (Duration.ofJson duration))
  | health status => do
    return some (.health (← label status))
  | error type other => do
    return some (.error (← label type) (← serviceLabel other))
  | operation name outcome => do
    if .authOperations ∈ Counter.ofService service then
      return some (.operation (← label name) (← label outcome))
    else return none

end MetricCall

namespace Collector

variable (c : Collector)

def record : RecordCall → Collector
  | .request method endpoint status duration =>
    (c.recordRequest method endpoint status duration).2
  | .health status => c.recordHealth status
  | .error type service => c.recordError type service
  | .operation name outcome => c.recordOperation name outcome

def call (call : MetricCall) : Except Defect Unit × Collector :=
  match call.read c.service with
  | .ok (some recorded) => (recorded.outcome, c.record recorded)
  | .ok none => (.ok (), c)
  | .error defect => (.error defect, c)

end Collector

end SessionGate
