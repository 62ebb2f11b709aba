import SessionGate.TokenBundle
import SessionGate.World

/-!
# The token endpoint

A grant is posted as a form together with the credentials of the client, and answered with a bundle
of tokens. Nothing is remembered: every exchange is one request. `TokenEndpoint.read` decides about
the answer alone, apart from the world; `TokenEndpoint.exchange` sends the request and reports.
-/

namespace SessionGate

inductive Grant where
  | code (value redirectUrl : Text)
  | refresh (token : Json)
  deriving Repr

namespace Grant

def name : Grant → String
  | code .. => "authorization_code"
  | refresh _ => "refresh_token"

end Grant

/-- A value as it stands in a form. -/
def Form.fieldText : Json → Text
  | .null => ""
  | .bool b => .plain (if b then "true" else "false")
  | v => v.display

/-- The pairs of a field: a list gives one for each item. -/
def Form.field (name : String) : Json → Form
  | .arr items => items.map fun v ↦ (name, fieldText v)
  | v => [(name, fieldText v)]

def Grant.pairs : Grant → Form
  | .code value redirectUrl =>
    [("grant_type", "authorization_code"), ("code", value), ("redirect_uri", redirectUrl)]
  | .refresh token => ("grant_type", "refresh_token") :: Form.field "refresh_token" token

/-- A token endpoint and the client we are to it. -/
structure TokenEndpoint where
  clientId : Text
  clientSecret : Text
  url : Text
  deriving DecidableEq, Repr

namespace TokenEndpoint

def pairs (e : TokenEndpoint) (grant : Grant) : Form :=
  grant.pairs ++ ([("client_id", e.clientId), ("client_secret", e.clientSecret)] : Form)

def request (e : TokenEndpoint) (grant : Grant) : Request where
  client := .tokens
  method := "POST"
  url := e.url
  accept := some "application/json"
  contentType := some "application/x-www-form-urlencoded"
  form := e.pairs grant

/-! ## Answers -/

inductive Fault where
  | tooDeep
  | unreadable (status : Int) (fault : DocumentFault)
  | notObject (status : Int)
  | rejected (status : Int) (error description : Json)
  | badBundle (failure : Failure)
  deriving Repr

def statusDetails (status : Int) : Members := [("status_code", .int status)]

namespace Fault

/-- The message of a rejection: the error as it is, or as text with its description. -/
def rejection (error description : Json) : Json :=
  if description.isSet then .str (error.display ++ ": " ++ description.display) else error

def toFailure : Fault → Failure
  | tooDeep => .defect (.badDocument .tooDeep)
  | unreadable status fault =>
    .refused {
      kind := .tokenExchange
      message := .str "token endpoint returned a non-JSON body"
      details := .obj (statusDetails status)
      cause := some (.document fault) }
  | notObject status =>
    .refused {
      kind := .tokenExchange
      message := .str "token endpoint returned an unexpected body"
      details := .obj (statusDetails status) }
  | rejected status error description =>
    .refused {
      kind := .tokenExchange
      message := rejection error description
      details := .obj (statusDetails status ++ ([("error", error)] : Members)) }
  | badBundle failure => failure

end Fault

/-- The object in the body of an answer. A body that cannot be read counts as an empty object where
the status is already bad. -/
def payload (r : Response) : Except Fault Members :=
  match Json.ofBytes r.body with
  | .error .tooDeep => .error .tooDeep
  | .error fault => if r.status = 200 then .error (.unreadable r.status fault) else .ok []
  | .ok (.obj ms) => .ok ms
  | .ok _ => .error (.notObject r.status)

def read (r : Response) (receivedAt : Moment) : Except Fault TokenBundle := do
  let ms ← payload r
  if r.status ≠ 200 ∨ Members.has ms "error" then
    .error (.rejected r.status ((Members.get ms "error").orElse (.str s!"http_{r.status}"))
      ((Members.get? ms "error_description").getD (.str "")))
  else
    match TokenBundle.ofMembers ms receivedAt with
    | .ok bundle => .ok bundle
    | .error failure => .error (.badBundle failure)

/-! ## Exchanges -/

def logger : String := "auth.token_client"

def grantField (grant : Grant) : Text × Json := ("grant", .str grant.name)

def unreachable (e : TokenEndpoint) (fault : NetworkFault) : AccessError where
  kind := .transport
  message := .str ("token endpoint request failed: " ++ fault.message)
  details := .obj [("token_url", .str e.url)]
  cause := some (.network fault.kind)

def entries (grant : Grant) : Except Fault TokenBundle → List LogEntry
  | .ok bundle =>
    [⟨logger, .info, .str "Token grant succeeded",
      [grantField grant, ("has_refresh_token", .bool bundle.refreshToken.isSet),
        ("has_id_token", .bool bundle.idToken?.isSome)]⟩]
  | .error (.rejected status error _) =>
    [⟨logger, .warning, .str "Token endpoint rejected grant",
      [grantField grant, ("status_code", .int status), ("error", error)]⟩]
  | .error _ => []

/-- What is logged about a reply that comes at a moment. -/
def report (grant : Grant) (receivedAt : Moment) : Except NetworkFault Response → List LogEntry
  | .error fault =>
    [⟨logger, .error, .str "Token endpoint unreachable",
      [grantField grant, ("error", .str fault.message)]⟩]
  | .ok response => entries grant (read response receivedAt)

/-- The bundle that a reply brings, or the failure of the exchange. -/
def conclude (e : TokenEndpoint) (receivedAt : Moment) :
    Except NetworkFault Response → Except Failure TokenBundle
  | .error fault => .error (.refused (e.unreachable fault))
  | .ok response => (read response receivedAt).mapError Fault.toFailure

def exchange (e : TokenEndpoint) (grant : Grant) : Action TokenBundle := do
  let reply ← Action.send (e.request grant)
  let now ← Action.now
  Action.logAll (report grant now reply)
  Action.lift (e.conclude now reply)

end TokenEndpoint

end SessionGate
