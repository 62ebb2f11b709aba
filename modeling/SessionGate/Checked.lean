import SessionGate.Json

/-!
# Checked fields

Settings, request bodies and error answers are records whose fields have fixed types. A value that
does not fit is refused with one fault for each field that is wrong, so a check collects faults
instead of stopping at the first one: `Checked` is applicative but no monad.
-/

namespace SessionGate

/-- One step on the way to a field. -/
inductive PathStep where
  | member (name : String)
  | index (n : Nat)
  deriving DecidableEq, Repr

inductive FieldFaultKind where
  | missing
  | notString
  /-- A text holds surrogates where only characters are looked at. -/
  | notUnicode
  | tooShort
  | notBool
  | unreadableBool
  | notInteger
  | unreadableInteger
  | fractional
  | integerTooLong
  | notFloat
  | unreadableFloat
  | notFinite
  | notList
  | notObject
  | notRecord
  | notMoment
  | unreadableMoment
  | unreadableDate
  | notJson
  /-- The text of a value is nested too deeply. No fault of a field is told then. -/
  | tooDeep
  /-- A rule of the field's own is broken. -/
  | rule (message : String)
  deriving DecidableEq, Repr

namespace FieldFaultKind

/-- The word a fault is reported with. -/
def code : FieldFaultKind → String
  | missing => "missing"
  | notString => "string_type"
  | notUnicode => "string_unicode"
  | tooShort => "string_too_short"
  | notBool => "bool_type"
  | unreadableBool => "bool_parsing"
  | notInteger => "int_type"
  | unreadableInteger => "int_parsing"
  | fractional => "int_from_float"
  | integerTooLong => "int_parsing_size"
  | notFloat => "float_type"
  | unreadableFloat => "float_parsing"
  | notFinite => "finite_number"
  | notList => "list_type"
  | notObject => "dict_type"
  | notRecord => "model_attributes_type"
  | notMoment => "datetime_type"
  | unreadableMoment => "datetime_parsing"
  | unreadableDate => "datetime_from_date_parsing"
  | notJson => "json_invalid"
  | tooDeep => "too_deep"
  | rule _ => "value_error"

/-- The wording, where the fault is of a rule of the field's own. -/
def message? : FieldFaultKind → Option String
  | rule message => some s!"Value error, {message}"
  | _ => none

end FieldFaultKind

structure FieldFault where
  path : List PathStep
  kind : FieldFaultKind
  deriving DecidableEq, Repr

/-- A value that has passed its checks, or all their faults. -/
inductive Checked (α : Type) where
  | valid (a : α)
  | invalid (faults : List FieldFault)
  deriving Repr

namespace Checked

variable {α β : Type}

def map (f : α → β) : Checked α → Checked β
  | valid a => valid (f a)
  | invalid faults => invalid faults

/-- Both checks, with the faults of both. -/
def both (f : Checked (α → β)) (x : Checked α) : Checked β :=
  match f, x with
  | valid f, valid a => valid (f a)
  | valid _, invalid faults => invalid faults
  | invalid faults, valid _ => invalid faults
  | invalid faults, invalid more => invalid (faults ++ more)

instance : Functor Checked where
  map := map

instance : Seq Checked where
  seq f x := both f (x ())

def fault (kind : FieldFaultKind) : Checked α :=
  invalid [⟨[], kind⟩]

/-- The faults as those of a part of the value. -/
def under (step : PathStep) : Checked α → Checked α
  | valid a => valid a
  | invalid faults => invalid (faults.map fun f ↦ { f with path := step :: f.path })

def toExcept : Checked α → Except (List FieldFault) α
  | valid a => .ok a
  | invalid faults => .error faults

/-- A field without which there is no record. -/
def required (ms : Members) (name : String) (read : Json → Checked α) : Checked α :=
  match ms.get? name with
  | some v => (read v).under (.member name)
  | none => invalid [⟨[.member name], .missing⟩]

def optional (ms : Members) (name : String) (default : α) (read : Json → Checked α) : Checked α :=
  match ms.get? name with
  | some v => (read v).under (.member name)
  | none => valid default

/-! ## Readers -/

def string : Json → Checked Text
  | .str s => valid s
  | _ => fault .notString

/-- The characters of a text, which a check of the text has to look at. -/
def unicode (check : String → Checked α) : Text → Checked α
  | .plain s => check s
  | .loose _ => fault .notUnicode

/-- A string of characters, as those that an environment holds. -/
def characters : Json → Checked String
  | .str s => unicode valid s
  | _ => fault .notString

/-- A string with at least one character. -/
def filledString : Json → Checked String
  | .str s => unicode (fun s ↦ if s = "" then fault .tooShort else valid s) s
  | _ => fault .notString

/-- A value or null. -/
def nullable (read : Json → Checked α) : Json → Checked (Option α)
  | .null => valid none
  | v => (read v).map some

/-- The items of a list from the position `n` on. -/
def items (read : Json → Checked α) (n : Nat) : List Json → Checked (List α)
  | [] => valid []
  | v :: vs => both (((read v).under (.index n)).map List.cons) (items read (n + 1) vs)

def list (read : Json → Checked α) : Json → Checked (List α)
  | .arr vs => items read 0 vs
  | _ => fault .notList

def object : Json → Checked Members
  | .obj ms => valid ms
  | _ => fault .notObject

/-- A record, read from the members of an object. -/
def record (read : Members → Checked α) : Json → Checked α
  | .obj ms => read ms
  | _ => fault .notRecord

end Checked

end SessionGate
