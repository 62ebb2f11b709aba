import SessionGate.Checked
import SessionGate.Json.Printer
import SessionGate.Metrics
import SessionGate.Text.Utf8
import SessionGate.Url

/-!
# Requests and responses

What comes in over HTTP and what goes out. Names of headers are in lower case, and the body of a
response is kept as what it says; how it is written is decided by its kind alone.
-/

namespace SessionGate.Http

/-- Headers by their names in lower case. -/
abbrev Headers := List (String × String)

structure Request where
  method : String
  path : String
  headers : Headers := []
  body : Text.Bytes := []
  deriving Repr

/-- Where targets are looked up that name no server. -/
def base : Url where
  scheme := "http".toList
  host := "host".toList

/-- The request for a target, if that is a URL. Methods are in upper case. -/
def Request.to? (method target : String) (headers : Headers) (body : Text.Bytes) :
    Option Request :=
  (Url.read? target).map fun url ↦
    { method := Text.upper method, path := String.ofList (Url.on base url).decodedPath
      headers, body }

/-- The path as it is shown: without tabs and line ends, and no further than to a question mark or a
hash. -/
def Request.shownPath (r : Request) : String :=
  let shown := r.path.toList.filter fun c ↦ c != '\t' && c != '\n' && c != '\r'
  String.ofList (Url.spanUntil ['?', '#'] shown).1

def Request.header? (r : Request) (name : String) : Option String :=
  r.headers.lookup name

inductive Body where
  | empty
  | json (v : Json)
  /-- The faults of a request body. -/
  | faults (faults : List FieldFault)
  | text (s : String)
  /-- A page to look at. -/
  | page
  | samples (samples : List Sample)
  deriving Repr

/-- The type a body is sent with. -/
def Body.contentType? : Body → Option String
  | empty => none
  | json _ => some "application/json"
  | faults _ => some "application/json"
  | text _ => some "text/plain; charset=utf-8"
  | page => some "text/html; charset=utf-8"
  | samples _ => some "text/plain; version=1.0.0; charset=utf-8"

structure Response where
  status : Nat
  headers : Headers
  body : Body
  deriving Repr

namespace Response

/-- A response with a body and the header for its type. -/
def of (status : Nat) (body : Body) : Response :=
  ⟨status, (body.contentType?.map fun type ↦ ("content-type", type)).toList, body⟩

def withHeaders (r : Response) (headers : Headers) : Response :=
  { r with headers := r.headers ++ headers }

/-- A response that says what went wrong. -/
def detail (status : Nat) (message : String) : Response :=
  of status (.json (.obj [("detail", .str message)]))

def crashed : Response :=
  of 500 (.text "Internal Server Error")

/-- The answer to a request of a method: to `HEAD`, no body is sent. -/
def forMethod (method : String) (r : Response) : Response :=
  if method = "HEAD" then { r with body := .empty } else r

end Response

end SessionGate.Http
