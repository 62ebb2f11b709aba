import SessionGate.Form
import SessionGate.GroupPolicy
import SessionGate.Log.Submitted
import SessionGate.Metrics.Collectors
import SessionGate.Session
import SessionGate.Text.Utf8
import SessionGate.Url

/-!
# The world an operation runs in

Operations read the clock, write to the journal, count what they do, send requests and change
sessions. All of that is one value, `World`, and an operation is an `Action`: a function on worlds
that ends with a value or a failure. Nothing that was done before a failure is undone.

## Requests in flight

A request is answered by the next delivery. While it is in flight others may commit to sessions and
time may pass, so a delivery says besides its outcome what happened meanwhile. An operation that
holds a session across a request has to look at it again afterwards. A commit that fails takes the
request with it: no further commit is made, no time passes, and there is no outcome.

## Requests to nowhere

A request whose URL is a reference goes out like any other, and the network may fail on it. But an
answer to it belongs to no server, and nobody answers for that.

## Cookies

A client keeps the cookies of answers and sends them along with later requests. No operation sees
them: they are the one thing that a request to a server may have from requests before it. How long
cookies are kept and where they are sent is a parameter, `CookieRule`.
-/

namespace SessionGate

open Text

/-! ## The network -/

/-- Who sends a request. The two clients have nothing in common, and each keeps its own cookies. -/
inductive Client where
  | tokens
  | lookups
  deriving DecidableEq, Repr

structure Request where
  client : Client
  method : String
  url : Text
  authorization : Option Text := none
  accept : Option String := none
  contentType : Option String := none
  /-- The cookies, which the client adds when it sends the request. -/
  cookie : Option String := none
  /-- The form that is its body; none is an empty one. -/
  form : Form := []
  deriving DecidableEq, Repr

/-- The request as it is sent to a URL, whose name and password go over any other authorization. -/
def Request.sentTo (r : Request) (u : Url) : Request :=
  { r with
    url := u.text
    authorization := (u.basicAuthorization?.map .plain).orElse fun _ ↦ r.authorization }

/-- Whether the headers can be sent, which have to be ASCII. -/
def Request.isSendable (r : Request) : Bool :=
  r.authorization.all fun header ↦ header.points.all (·.toNat < 128)

def Request.content? (r : Request) : Option String :=
  Form.encode? r.form

/-- The URL the request goes to. URL, headers and body are made in this order before anything is
sent. -/
def Request.destination (r : Request) : Except Defect Url :=
  match Url.ofText? r.url with
  | none => .error (if Url.isUnwritable r.url then .notUnicode else .invalidUrl)
  | some url =>
    if !r.isSendable then .error .notAscii
    else if r.content?.isNone then .error .notUnicode
    else .ok url.destination

/-- An answer: a status, the bytes of a body, and the cookies that it sets. -/
structure Response where
  status : Int
  body : Bytes
  cookies : List String := []
  deriving DecidableEq, Repr

/-- A failure of the network: its kind and its message. -/
structure NetworkFault where
  kind : String
  message : Text
  deriving DecidableEq, Repr

inductive Outcome where
  | answered (response : Response)
  | failed (fault : NetworkFault)
  | invalidUrl
  deriving DecidableEq, Repr

/-- The answer or the failure of the network that a request to a URL ends with. -/
def Outcome.reply (url : Url) : Outcome → Except Defect (Except NetworkFault Response)
  | answered response => if url.isAbsolute then .ok (.ok response) else .error .noServer
  | failed fault => .ok (.error fault)
  | invalidUrl => .error .invalidUrl

/-- A commit by someone else: the name of a session and what is put in its place, unless that is no
session. -/
structure OtherCommit where
  name : String
  fresh : Except Defect Session

/-- An outcome, and what happened while the request was in flight: the commits by others, and the
time that has come. -/
structure Delivery where
  outcome : Outcome
  commits : List OtherCommit := []
  advanceTo : Option Moment := none

/-! ## Cookies -/

/-- The cookies that an answer has set: for whom, by which URL, and when. -/
structure Cookies where
  client : Client
  url : Text
  texts : List String
  receivedAt : Moment

/-- What a client sends to a URL of the cookies that were set before. Which of them go there, and
for how long, is up to the client; but it sends none that it was not given. -/
structure CookieRule where
  header? : List Cookies → Moment → Text → Option String
  header?_nil : ∀ now url, header? [] now url = none

/-- Sends no cookies at all. -/
def CookieRule.never : CookieRule where
  header? _ _ _ := none
  header?_nil _ _ := rfl

def Request.cookies (r : Request) (receivedAt : Moment) : Except Defect Outcome → List Cookies
  | .ok (.answered response) =>
    if response.cookies.isEmpty then [] else [⟨r.client, r.url, response.cookies, receivedAt⟩]
  | _ => []

/-! ## Named sessions -/

abbrev Sessions := List (String × Session)

namespace Sessions

def get? (ss : Sessions) (name : String) : Option Session :=
  List.lookup name ss

/-- Puts a session under a name: a name already there keeps its place. -/
def set (ss : Sessions) (name : String) (s : Session) : Sessions :=
  match ss with
  | [] => [(name, s)]
  | (n, t) :: rest => if n = name then (n, s) :: rest else (n, t) :: set rest name s

/-- The sessions after a commit to one of them, which is made for no particular version. -/
def commit (ss : Sessions) (c : OtherCommit) : Except Defect Sessions :=
  match ss.get? c.name with
  | none => .error .noSession
  | some s => c.fresh.map fun fresh ↦ ss.set c.name (s.replaced fresh)

/-- The sessions after commits in their order, up to one that fails, and its defect. -/
def commitAll (ss : Sessions) : List OtherCommit → Except Defect Unit × Sessions
  | [] => (.ok (), ss)
  | c :: cs =>
    match ss.commit c with
    | .ok after => commitAll after cs
    | .error defect => (.error defect, ss)

end Sessions

/-! ## Worlds -/

structure World where
  now : Moment
  journal : Journal := {}
  collectors : Collectors := []
  /-- The requests sent so far. -/
  sent : List Request := []
  cookieRule : CookieRule := .never
  /-- The cookies that were set so far. -/
  cookies : List Cookies := []
  /-- The deliveries that are still to come. -/
  deliveries : List Delivery := []
  sessions : Sessions := []
  policy : GroupPolicy := {}
  /-- Whether the connection has been closed. -/
  isClosed : Bool := false

namespace World

/-- Lets pass what happens while a request is in flight, and gives the outcome. -/
def pass (w : World) (d : Delivery) : Except Defect Outcome × World :=
  match w.sessions.commitAll d.commits with
  | (.ok (), sessions) => (.ok d.outcome, { w with sessions, now := d.advanceTo.getD w.now })
  | (.error defect, sessions) => (.error defect, { w with sessions })

/-- The delivery a request gets when none is left: there is nobody to answer it, and the connection
fails. The wording is that of whoever hands out the deliveries. -/
def noDelivery : Delivery where
  outcome := .failed ⟨"ConnectError", "no response queued"⟩

/-- The request with the cookies of its client. -/
def dress (w : World) (r : Request) : Request :=
  let kept := w.cookies.filter fun cookies ↦ cookies.client = r.client
  { r with cookie := w.cookieRule.header? kept w.now r.url }

/-- Sends a request, lets pass what happens meanwhile, and gives the outcome. The client keeps the
cookies of an answer. -/
def send (w : World) (r : Request) : Except Defect Outcome × World :=
  let w := { w with sent := w.sent ++ [w.dress r] }
  match w.deliveries with
  | [] => (.ok noDelivery.outcome, w)
  | d :: rest =>
    let passed := { w with deliveries := rest }.pass d
    (passed.1, { passed.2 with cookies := passed.2.cookies ++ r.cookies passed.2.now passed.1 })

end World

/-! ## Actions -/

abbrev Action (α : Type) := ExceptT Failure (StateM World) α

namespace Action

def refuse {α : Type} (error : AccessError) : Action α :=
  throw (.refused error)

def escape {α : Type} (defect : Defect) : Action α :=
  throw (.defect defect)

/-- The value of a computation that touches nothing. -/
def lift {α : Type} (x : Except Failure α) : Action α :=
  match x with
  | .ok a => pure a
  | .error failure => throw failure

/-- The same where every failure is a defect. -/
def liftDefect {α : Type} (x : Except Defect α) : Action α :=
  match x with
  | .ok a => pure a
  | .error defect => escape defect

/-- The action, with its errors changed; defects stay as they are. -/
def mapError {α : Type} (f : AccessError → AccessError) (x : Action α) : Action α :=
  tryCatch x fun failure ↦ throw (failure.map f)

def now : Action Moment :=
  return (← get).now

def log (entry : LogEntry) : Action Unit :=
  modify fun w ↦ { w with journal := w.journal.write entry }

/-- Writes an entry with fields of any name, of which some are instructions. -/
def submit (entry : LogEntry) : Action Unit := do
  let w ← get
  let journal ← liftDefect (w.journal.submit entry)
  set { w with journal }

def logAll (entries : List LogEntry) : Action Unit :=
  modify fun w ↦ { w with journal := entries.foldl Journal.write w.journal }

def count (key : CollectorKey) (f : Collector → Collector) : Action Unit :=
  modify fun w ↦ { w with collectors := w.collectors.update key f }

def session (name : String) : Action Session := do
  match (← get).sessions.get? name with
  | some s => return s
  | none => escape .noSession

def setSession (name : String) (s : Session) : Action Unit :=
  modify fun w ↦ { w with sessions := w.sessions.set name s }

/-- Sends a request and gives the answer or the failure of the network. On a closed connection
nothing is sent. -/
def send (request : Request) : Action (Except NetworkFault Response) := do
  let url ← liftDefect request.destination
  let w ← get
  if w.isClosed then escape .clientClosed
  else
    let (outcome, w) := w.send (request.sentTo url)
    set w
    liftDefect ((← liftDefect outcome).reply url)

def perform {α : Type} (x : Action α) (w : World) : Except Failure α × World :=
  x.run.run w

end Action

end SessionGate
