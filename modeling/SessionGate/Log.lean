import SessionGate.Failure
import SessionGate.Moment
import SessionGate.Text.Case
import SessionGate.Text.Parts

/-!
# The log

An entry is an event with a level, the name of the logger that wrote it and fields of its own. What
is written is one object per entry: the entry itself, the service its logger belongs to, and the
request and the user it was written for. `Journal` holds the lines written so far and the settings
that decide what is written.

## Two switches

Setting the journal up first takes the old output away. If the level has no meaning at all, no
output is put in its place; if it is a word but not a level, the output is there and the old
threshold stays. So a failed set-up may still leave a journal that writes.
-/

namespace SessionGate

inductive Level where
  | debug
  | info
  | warning
  | error
  | critical
  deriving DecidableEq, Repr

namespace Level

def rank : Level → Nat
  | debug => 10
  | info => 20
  | warning => 30
  | error => 40
  | critical => 50

def name : Level → String
  | debug => "debug"
  | info => "info"
  | warning => "warning"
  | error => "error"
  | critical => "critical"

end Level

/-- For whom a line is written: null where nobody is known. -/
structure LogContext where
  requestId : Json := .null
  user : Json := .null
  deriving Repr

/-- An entry. The event is a text, or null where nothing is said about it. -/
structure LogEntry where
  logger : String
  level : Level
  event : Json
  fields : Members := []
  deriving Repr

namespace LogEntry

/-- The service a logger belongs to is the part of its name before the first point; a logger
without a point belongs to none. -/
def addService (event : Members) : Except Defect Members :=
  match event.get? "logger" with
  | none => .ok event
  | some (.str logger) =>
    match Text.cut? (.char '.') logger.points with
    | some (service, _) => .ok (event.insert "service" (.str (.ofPoints service)))
    | none => .ok event
  | some (.arr items) => if items.any (Json.same (.str ".")) then .error .unsupported else .ok event
  | some (.obj members) => if Members.has members "." then .error .unsupported else .ok event
  | some _ => .error .wrongType

/-- The request is always that of the context; a user the event brings itself is kept. -/
def addContext (context : LogContext) (event : Members) : Members :=
  let event :=
    if context.requestId.isSet then event.insert "request_id" context.requestId else event
  if context.user.isSet && !event.has "user" then event.insert "user" context.user else event

/-- The instant in seconds. -/
def addTimestamp (now : Moment) (event : Members) : Members :=
  event.insert "timestamp" (.float now.timestamp)

/-- Fields that measure time are not part of a line. -/
def timings : List Text := ["timestamp", "duration_ms"]

/-- The line of an entry. The root logger has no name of its own. -/
def line (context : LogContext) (e : LogEntry) : Members :=
  let logger := if e.logger = "" then "root" else e.logger
  let event := if e.event.isNull then e.fields else e.fields.insert "event" e.event
  let event := (event.insert "logger" (.str logger)).insert "level" (.str e.level.name)
  let event := (addService event).toOption.getD event
  timings.foldl Members.erase (addContext context event)

end LogEntry

/-- What has been written, and what decides about the next entry. -/
structure Journal where
  /-- Whether entries are looked at, which they are from the first set-up on. -/
  isSetUp : Bool := false
  /-- Whether entries are written at all. -/
  hasOutput : Bool := false
  /-- The least rank that is written. -/
  threshold : Nat := Level.warning.rank
  context : LogContext := {}
  lines : List Members := []
  deriving Repr

namespace Journal

def thresholds : List (String × Nat) :=
  [("CRITICAL", 50), ("FATAL", 50), ("ERROR", 40), ("WARN", 30), ("WARNING", 30), ("INFO", 20),
    ("DEBUG", 10), ("NOTSET", 0)]

/-- Sets the journal up for a threshold given as a word in any case. -/
def configure (j : Journal) (level : Text) : Journal × Option Defect :=
  let word := (level.string?.map Text.upper).getD ""
  let off := { j with isSetUp := true, hasOutput := false }
  let on := { off with hasOutput := true }
  match thresholds.lookup word with
  | some rank => ({ on with threshold := rank }, none)
  | none =>
    if word = "BASIC_FORMAT" then (on, some .unknownLevel)
    else if word = "_STYLES" then (on, some .wrongType)
    else (off, some .unsupported)

def admits (j : Journal) (e : LogEntry) : Bool :=
  j.threshold ≤ e.level.rank

/-- Writes an entry if its level is high enough. -/
def write (j : Journal) (e : LogEntry) : Journal :=
  if j.hasOutput && j.admits e then { j with lines := j.lines ++ [e.line j.context] } else j

def setRequest (j : Journal) (id : Json) : Journal :=
  { j with context := { j.context with requestId := id } }

/-- Only a user that is set replaces the one before. -/
def setUser (j : Journal) (user : Json) : Journal :=
  if user.isSet then { j with context := { j.context with user := user } } else j

def clear (j : Journal) : Journal :=
  { j with context := {} }

end Journal

end SessionGate
