import SessionGate.Http
import SessionGate.Json.Document
import SessionGate.Text.Blank
import SessionGate.Text.Case
import SessionGate.Text.Parts

/-!
# Reading request bodies

A body is a JSON document if its type says so. The record it should hold is then read from it, and
what is wrong with that is reported by the place in the body.
-/

namespace SessionGate.Http

open Text

inductive Content where
  | nothing
  | document (v : Json)
  /-- Bytes that are no document by their type. -/
  | other
  deriving Repr

/-- Why a body that should be a document is none. -/
inductive ContentFault where
  /-- The syntax is wrong at a position. -/
  | malformed (position : Nat)
  | unreadable
  deriving DecidableEq, Repr

/-- The type without its parameters, as its two halves. -/
def mediaType? (value : String) : Option (List Char × List Char) :=
  let name := (lower (String.ofList (trimChars (value.toList.takeWhile (· ≠ ';'))))).toList
  match splitOn '/' name with
  | [main, sub] => some (main, sub)
  | _ => none

/-- Whether a type is that of JSON documents, or of a format that is written in JSON. -/
def isJsonType (value : String) : Bool :=
  match mediaType? value with
  | some (main, sub) =>
    main == "application".toList &&
      (sub == "json".toList || "+json".toList.isSuffixOf sub)
  | none => false

def Request.content (r : Request) : Except ContentFault Content :=
  if r.body.isEmpty then .ok .nothing
  else if ((r.header? "content-type").map isJsonType).getD false then
    match Json.ofBytes r.body with
    | .ok v => .ok (.document v)
    | .error (.unreadable text fault) =>
      .error (if fault.isSyntax then .malformed (fault.position text) else .unreadable)
    | .error _ => .error .unreadable
  else .ok .other

namespace Content

def place : PathStep := .member "body"

def record {α : Type} (read : Members → Checked α) : Content → Checked α
  | nothing => .invalid [⟨[place], .missing⟩]
  | document v => (Checked.record read v).under place
  | other => .invalid [⟨[place], .notRecord⟩]

/-- The part of a value at the end of a way. -/
def part (v : Json) : List PathStep → Json
  | [] => v
  | .member name :: rest =>
    match v with
    | .obj ms => part (Members.get ms name) rest
    | _ => .null
  | .index n :: rest =>
    match v with
    | .arr items => part (items.getD n .null) rest
    | _ => .null

/-- The value that is reported with a fault: the one at its place, or what it is missing from. -/
def shown (v : Json) (fault : FieldFault) : Json :=
  let path := fault.path.drop 1
  part v (if fault.kind = .missing then path.dropLast else path)

/-- Whether faults can be reported, which shows the values that have them. -/
def canReport (faults : List FieldFault) : Content → Bool
  | document v => faults.all fun fault ↦ (shown v fault).isWritable
  | _ => true

end Content

end SessionGate.Http
