import SessionGate.Binary64
import SessionGate.Text

/-!
# JSON values

Token payloads, claim sets and session records are JSON documents whose shape nobody promises, so
the whole library passes them around as `Json` and asks one question at a time: is it an object,
has it this member, is the member a non-empty string.

## Objects

The members of an object keep the order in which they were first written, and a name that is
written again replaces the value in place. `Json.insert` is that rule, and `Json.member?` reads it
back.

## Two notions of equality

`Json.same` is equality of values: numbers are compared by what they are worth, truth values count
as zero and one, and the order of the members of an object does not matter. Key identifiers and
issuers are compared with it. Equality of terms (`=`) is finer.
-/

namespace SessionGate

/-- A JSON value. Integers are exact; every other number is a double. -/
inductive Json where
  | null
  | bool (b : Bool)
  | int (n : Int)
  | float (x : Binary64)
  | str (s : Text)
  | arr (items : List Json)
  | obj (members : List (Text × Json))
  deriving Repr, Inhabited

/-- The members of an object, in order. -/
abbrev Members := List (Text × Json)

namespace Members

def get? (ms : Members) (name : Text) : Option Json :=
  List.lookup name ms

/-- The value of a member, null where there is none. -/
def get (ms : Members) (name : Text) : Json :=
  (ms.get? name).getD .null

def has (ms : Members) (name : Text) : Bool :=
  (ms.get? name).isSome

/-- Sets a member: a name already there keeps its place. -/
def insert (ms : Members) (name : Text) (value : Json) : Members :=
  match ms with
  | [] => [(name, value)]
  | (n, v) :: rest => if n = name then (n, value) :: rest else (n, v) :: insert rest name value

/-- Members written one after the other. -/
def ofList (ms : List (Text × Json)) : Members :=
  ms.foldl (fun acc m ↦ acc.insert m.1 m.2) []

/-- The members of the second object written over those of the first. -/
def override (ms newer : Members) : Members :=
  newer.foldl (fun acc m ↦ acc.insert m.1 m.2) ms

def names (ms : Members) : List Text :=
  ms.map Prod.fst

def erase (ms : Members) (name : Text) : Members :=
  ms.filter fun m ↦ m.1 != name

end Members

namespace Json

/-! ## Views -/

def str? : Json → Option Text
  | .str s => some s
  | _ => none

def nonEmptyStr? : Json → Option Text
  | .str s => if s = "" then none else some s
  | _ => none

def obj? : Json → Option Members
  | .obj ms => some ms
  | _ => none

def arr? : Json → Option (List Json)
  | .arr xs => some xs
  | _ => none

def isNull : Json → Bool
  | .null => true
  | _ => false

/-- The strings of a list, in order; any other value holds none. -/
def strings : Json → List Text
  | .arr xs => xs.filterMap str?
  | _ => []

/-- False for null, false, zero and the empty string, list and object. -/
def isSet : Json → Bool
  | .null => false
  | .bool b => b
  | .int n => n != 0
  | .float x => !x.isZero
  | .str s => s != ""
  | .arr xs => !xs.isEmpty
  | .obj ms => !ms.isEmpty

/-- The value if it is set, and otherwise the default. -/
def orElse (v default : Json) : Json :=
  if v.isSet then v else default

/-! ## Equality of values -/

/-- The integer a truth value or a whole number is worth. -/
def worth? : Json → Option Int
  | .bool b => some (if b then 1 else 0)
  | .int n => some n
  | .float x => x.toInt?
  | _ => none

/-- Equality of two numbers by what they are worth; false where either is no number. -/
def sameNumber (a b : Json) : Bool :=
  match a, b with
  | .float x, .float y => x.same y
  | a, b =>
    match a.worth?, b.worth? with
    | some m, some n => m = n
    | _, _ => false

mutual

def same : Json → Json → Bool
  | .null, .null => true
  | .str s, .str t => s = t
  | .arr xs, .arr ys => sameItems xs ys
  | .obj ms, .obj ns => ms.length = ns.length && sameMembers ms ns
  | a, b => sameNumber a b

/-- Equality of two lists item by item. -/
def sameItems : List Json → List Json → Bool
  | [], [] => true
  | x :: xs, y :: ys => same x y && sameItems xs ys
  | _, _ => false

/-- Every member of the first object has an equal one of the same name in the second. -/
def sameMembers : List (Text × Json) → List (Text × Json) → Bool
  | [], _ => true
  | (n, v) :: ms, ns =>
    (match List.lookup n ns with
      | some w => same v w
      | none => false) && sameMembers ms ns

end

end Json

end SessionGate
