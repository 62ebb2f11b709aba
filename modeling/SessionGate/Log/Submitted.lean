import SessionGate.Log
import SessionGate.Template

/-!
# Entries with fields of any name

The entries of this library have fields whose names mean nothing to the journal. An entry that comes
from elsewhere may use names that are taken: some are those of what every entry has, and some are
instructions, to put values into the event or to report a failure. `LogEntry.completed` follows the
instructions, and `Journal.submit` writes what is left. Instructions are only followed once the
level of the entry has been found high enough.
-/

namespace SessionGate

namespace LogEntry

/-- The names of what an entry has apart from its fields. -/
def takenNames : List Text := ["self", "method_name", "event"]

/-- The field with a record that names the logger, which no value here can be. -/
def recordName : String := "_record"

/-- The field with the values for the places of the event. -/
def valuesName : String := "positional_args"

/-- The fields that ask for a report of the failure at hand; there never is one. -/
def reportNames : List Text := ["exc_info", "stack_info"]

/-- What is put into the event: a list with one object stands for the object. Only what has a size
can be put in, and of an object with one member the first item is asked for, which it has not. -/
def templateValue : Json → Except Defect Json
  | .arr [.obj (m :: ms)] => .ok (.obj (m :: ms))
  | .obj [_] => .error .missingName
  | .arr items => .ok (.arr items)
  | .obj members => .ok (.obj members)
  | .str s => .ok (.str s)
  | _ => .error .wrongType

/-- The event with values put in. -/
def fillEvent (event values : Json) : Except Defect Json := do
  let v ← templateValue values
  match event with
  | .str template => return .str (← Template.fill template v)
  | .null => .error .missingName
  | _ => .error .wrongType

/-- The entry with its values in the event; null stands for no values and is kept. -/
def filled (e : LogEntry) : Except Defect LogEntry :=
  match e.fields.get? valuesName with
  | none | some .null => .ok e
  | some values => do
    let event ← if values.isSet then fillEvent e.event values else .ok e.event
    return { e with event, fields := e.fields.erase valuesName }

/-- The entry without instructions. -/
def completed (e : LogEntry) : Except Defect LogEntry := do
  if !(e.fields.get recordName).isNull then .error .unsupported
  else
    let e ← e.filled
    return { e with fields := reportNames.foldl Members.erase e.fields }

end LogEntry

/-- Writes an entry with fields of any name. -/
def Journal.submit (j : Journal) (e : LogEntry) : Except Defect Journal :=
  if LogEntry.takenNames.any e.fields.has then .error .wrongType
  else if j.isSetUp && j.admits e then e.completed.map j.write
  else .ok j

end SessionGate
