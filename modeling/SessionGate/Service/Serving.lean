import SessionGate.Http.Cors
import SessionGate.Service.Endpoint

/-!
# Serving requests

Around every endpoint there are three layers. The inner one turns errors into the answers they are,
the middle one says to browsers who may see the answer, and the outer one gives the request an
identifier, counts the request and logs it. `Service.serve` is all of them.

A defect passes through all layers. It is answered without a word about it, and is neither counted
nor logged.

## Contexts

What an endpoint says about the user of its lines ends with the endpoint, and so do the sessions of
a request. The identifier of a request is in the context until the next one arrives, unless the
request has been logged.
-/

namespace SessionGate.Service

def answerError (s : Service) (error : AccessError) : Action Http.Response := do
  Action.log ⟨s.name, .warning, .str "Access layer error",
    [("code", error.kind.code), ("message", error.message), ("details", error.details)]⟩
  s.count (·.recordError error.kind.code.display "")
  match error.response with
  | .valid body => reply error.kind.status (.obj body)
  | .invalid faults => Action.escape (.badFields faults)

/-- The answer of an endpoint, errors being answers as well. -/
def answerOrError (s : Service) (r : Http.Request) : Action Http.Response :=
  tryCatch (s.dispatch r) fun
    | .refused error => s.answerError error
    | .defect defect => Action.escape defect

def cors (s : Service) : Http.Cors := ⟨s.isLocal⟩

/-- The answer with what browsers are told. -/
def answer (s : Service) (r : Http.Request) : Action Http.Response := do
  match s.cors.preflight? r with
  | some response => return response
  | none => return (← s.answerOrError r).withHeaders (s.cors.answerHeaders r)

/-- The header that identifies a request. -/
def requestIdHeader : String := "x-request-id"

/-- What stands for an identifier that was made up. -/
def generatedId : String := "<uuid4>"

/-- The identifier of a request: that of its sender, or one that is made up. -/
def requestId (r : Http.Request) : String :=
  (r.header? requestIdHeader).getD generatedId

/-- What is logged about a request that was answered. -/
def requestEntry (s : Service) (r : Http.Request) (status : Nat) : LogEntry :=
  ⟨s.name, .info, .str "HTTP request",
    [("method", .str r.method), ("path", .str r.shownPath), ("status_code", .int status)]⟩

/-- The world as it is entered by a request. -/
def entered (w : World) (id : String) : World :=
  { w with journal := w.journal.setRequest (.str id) }

/-- The world as it is left by the endpoint: user and sessions are those of before. -/
def left (w after : World) : World :=
  { after with
    journal := { after.journal with context := w.journal.context }
    sessions := w.sessions }

/-- Counts and logs a request that was answered, and ends its context. -/
def recorded (s : Service) (r : Http.Request) (status : Nat) (duration : Binary64) (w : World) :
    World :=
  let key : CollectorKey := .shared s.name
  { w with
    collectors := w.collectors.update key fun c ↦
      (c.recordRequest r.method r.shownPath (toString status) (.ok duration)).2
    journal := (w.journal.write (s.requestEntry r status)).clear }

def serve (s : Service) (r : Http.Request) (w : World) : Http.Response × World :=
  let id := requestId r
  let start := entered w id
  let (result, after) := (s.answer r).perform start
  let after := left start after
  match result with
  | .error _ => (Http.Response.crashed.forMethod r.method, after)
  | .ok response =>
    let duration := Duration.between w.now after.now
    ((response.withHeaders [(requestIdHeader, id)]).forMethod r.method,
      s.recorded r response.status duration after)

end SessionGate.Service
