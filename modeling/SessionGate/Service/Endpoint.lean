import SessionGate.Http.Content
import SessionGate.Service
import SessionGate.Service.Payload

/-!
# Endpoints

What a service answers at which paths. The endpoints for sessions take a record, let the provider
do its work and count how that ended; the session they are given is theirs for the time of the
request.
-/

namespace SessionGate

/-- What can be asked of a service. -/
inductive Endpoint where
  | root
  | health
  | metrics
  | docs
  | redeem
  | refresh
  | validate
  | authorize
  | userinfo
  deriving DecidableEq, Repr

/-- An endpoint with its path and the methods it takes. -/
structure Route where
  path : String
  methods : List String
  endpoint : Endpoint
  deriving DecidableEq, Repr

/-- Whether a path is that of the route. A line end behind it does not count. -/
def Route.isAt (route : Route) (path : String) : Bool :=
  path = route.path || path = route.path ++ "\n"

namespace Service

/-! ## Routes -/

def sessionRoutes : List Route :=
  [⟨"/", ["GET"], .root⟩, ⟨"/auth/redeem", ["POST"], .redeem⟩,
    ⟨"/auth/refresh", ["POST"], .refresh⟩, ⟨"/auth/validate", ["POST"], .validate⟩,
    ⟨"/auth/authorize", ["POST"], .authorize⟩, ⟨"/auth/userinfo", ["POST"], .userinfo⟩]

def docsRoutes (path : String) : List Route :=
  [⟨path, ["GET", "HEAD"], .docs⟩, ⟨path ++ "/oauth2-redirect", ["GET", "HEAD"], .docs⟩]

def routes (s : Service) : List Route :=
  (s.docsPath?.map docsRoutes).getD [] ++
    [⟨"/health", ["GET"], .health⟩, ⟨"/metrics", ["GET"], .metrics⟩] ++
    if s.provider.isSome then sessionRoutes else []

/-- The path with a slash at the end, or without any. -/
def otherPath (path : String) : String :=
  if path.toList.getLast? = some '/' then
    String.ofList (path.toList.reverse.dropWhile (· = '/')).reverse
  else path ++ "/"

inductive Destination where
  | endpoint (e : Endpoint)
  /-- The path is known, but not for the method. -/
  | wrongMethod (methods : List String)
  /-- The path is known with another end. -/
  | elsewhere (path : String)
  | unknown
  deriving DecidableEq, Repr

def destination (s : Service) (method path : String) : Destination :=
  match s.routes.find? (·.isAt path) with
  | some route =>
    if route.methods.contains method then .endpoint route.endpoint
    else .wrongMethod route.methods
  | none =>
    let other := otherPath path
    if path ≠ "/" ∧ s.routes.any (·.isAt other) then .elsewhere other else .unknown

/-! ## Answers -/

/-- Counts something in the collector of the service. -/
def count (s : Service) (f : Collector → Collector) : Action Unit :=
  Action.count (.shared s.name) f

/-- A response that is a JSON value. -/
def reply (status : Nat) (v : Json) : Action Http.Response :=
  if v.isWritable then return .of status (.json v) else Action.escape .unwritable

/-- What the service for sessions depends on. -/
def dependencies (s : Service) (policy : GroupPolicy) : Members :=
  match s.provider with
  | some p =>
    [("provider", .str p.data.providerName),
      ("group_restriction", .str (if policy.restricts then "on" else "off"))]
  | none => []

def health (s : Service) : Action Http.Response := do
  let w ← get
  match s.dependencyFault with
  | some error =>
    Action.log ⟨s.name, .error, .str "Health check failed", [("error", .str error)]⟩
    s.count (·.recordHealth "error")
    reply 503 (.obj [("service", .str s.name), ("status", .str "error"), ("error", .str error)])
  | none =>
    s.count (·.recordHealth "ok")
    let uptime := Moment.secondsOf (w.now.instant - s.startedAt.instant)
    reply 200 (.obj [("service", .str s.name), ("status", .str "ok"),
      ("uptime_seconds", .float uptime), ("dependencies", .obj (s.dependencies w.policy)),
      ("version", .str version), ("commit", .str s.commit)])

def metrics : Action Http.Response := do
  return .of 200 (.samples ((← get).collectors.published .common))

def root (p : Provider) : Action Http.Response :=
  reply 200 (.obj [("service", .str sessionsName),
    ("message", .str "254Carbon Access Layer - Auth Service"),
    ("provider", .str p.data.providerName), ("version", .str version)])

/-! ## Sessions -/

/-- Runs an action on the record in the body of a request. A body without it is answered with its
faults, and a body that cannot be read at all is refused. -/
def withPayload {α : Type} (r : Http.Request) (read : Members → Checked α)
    (x : α → Action Http.Response) : Action Http.Response := do
  match r.content with
  | .error .unreadable => return .detail 400 "There was an error parsing the body"
  | .error (.malformed position) =>
    return .of 422 (.faults [⟨[Http.Content.place, .index position], .notJson⟩])
  | .ok content =>
    match content.record read with
    | .valid a => x a
    | .invalid faults =>
      if content.canReport faults then return .of 422 (.faults faults)
      else Action.escape .unwritable

/-- Runs an action and counts how it ended. -/
def counted {α : Type} (s : Service) (operation : String) (outcome : α → String)
    (x : Action α) : Action α := do
  let a ← tryCatch x fun
    | .refused error => do
      s.count (·.recordOperation operation "error")
      Action.refuse error
    | .defect defect => Action.escape defect
  s.count (·.recordOperation operation (outcome a))
  return a

/-- Says for whom the lines that follow are written. -/
def setUser (email : Json) : Action Unit :=
  modify fun w ↦ { w with journal := w.journal.setUser email }

/-- The name of the session of a request. -/
def sessionName : String := "the session of the request"

/-- Runs an action on the session of a request, for its user. -/
def withSession (r : Http.Request) (x : Session → Action Http.Response) : Action Http.Response :=
  withPayload r SessionPayload.ofBody fun payload ↦ do
    let session ← Action.liftDefect payload.toSession
    modify fun w ↦ { w with sessions := [(sessionName, session)] }
    setUser session.email
    x session

def sessionMember (session : Session) : Action (Text × Json) := do
  return ("session", .obj (← Action.liftDefect session.toMembers))

/-- The moment a session expires as it is logged. -/
def expiryText : Expiry → Text
  | .at moment => moment.shown
  | .unset => "None"
  | .odd value => value.display

def redeem (s : Service) (p : Provider) (r : Http.Request) : Action Http.Response :=
  withPayload r CodePayload.ofMembers fun payload ↦ do
    let session ← s.counted "redeem" (fun _ ↦ "ok") (p.redeem payload.redirectUrl payload.code)
    setUser session.email
    Action.log ⟨s.name, .info, .str "Session created",
      [("expires_on", .str (expiryText session.expiresOn))]⟩
    reply 200 (.obj [← sessionMember session])

def refresh (s : Service) (p : Provider) (r : Http.Request) : Action Http.Response :=
  withSession r fun _ ↦ do
    let refreshed ← s.counted "refresh" (fun done ↦ if done then "refreshed" else "fresh")
      (p.refreshIfNeeded (some sessionName))
    let session ← sessionMember (← Action.session sessionName)
    reply 200 (.obj [("refreshed", .bool refreshed), session])

def validate (s : Service) (p : Provider) (r : Http.Request) : Action Http.Response :=
  withSession r fun session ↦ do
    let valid ← s.counted "validate" (fun valid ↦ if valid then "valid" else "invalid")
      (p.validateSession session)
    reply 200 (.obj [("valid", .bool valid)])

def authorize (s : Service) (p : Provider) (r : Http.Request) : Action Http.Response :=
  withSession r fun session ↦ do
    let authorized ← s.counted "authorize" (fun allowed ↦ if allowed then "allow" else "deny")
      (p.validateGroup session)
    reply 200 (.obj [("authorized", .bool authorized)])

def userinfo (s : Service) (p : Provider) (r : Http.Request) : Action Http.Response :=
  withSession r fun session ↦ do
    let email ← s.counted "userinfo" (fun _ ↦ "ok") (p.emailAddress session)
    reply 200 (.obj [("email", .str email)])

/-! ## Dispatch -/

def notFound : Http.Response :=
  .detail 404 "Not Found"

/-- The answer of an endpoint. Those for sessions exist only in a service with a provider. -/
def answerAt (s : Service) (e : Endpoint) (r : Http.Request) : Action Http.Response :=
  match e, s.provider with
  | .health, _ => s.health
  | .metrics, _ => metrics
  | .docs, _ => return .of 200 .page
  | _, none => return notFound
  | .root, some p => root p
  | .redeem, some p => s.redeem p r
  | .refresh, some p => s.refresh p r
  | .validate, some p => s.validate p r
  | .authorize, some p => s.authorize p r
  | .userinfo, some p => s.userinfo p r

def dispatch (s : Service) (r : Http.Request) : Action Http.Response :=
  match s.destination r.method r.path with
  | .endpoint e => s.answerAt e r
  | .wrongMethod methods =>
    return (Http.Response.detail 405 "Method Not Allowed").withHeaders
      [("allow", ", ".intercalate methods)]
  | .elsewhere path => return (Http.Response.of 307 .empty).withHeaders [("location", path)]
  | .unknown => return notFound

end Service

end SessionGate
