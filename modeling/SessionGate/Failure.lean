import SessionGate.Checked
import SessionGate.Files
import SessionGate.Json.Document
import SessionGate.Moment.Iso
import SessionGate.Text.Integer

/-!
# Failures

An operation fails in one of two ways. An `AccessError` is an answer: it has a code, a message and
details, and the service turns it into a response with its status. A `Defect` is a fault that no
operation answers for; it escapes, and the service can only report that something went wrong.

## Causes

An error that was raised on account of another fault names it. `Cause` holds what is told about
that fault, which is its kind and not its wording.
-/

namespace SessionGate

/-! ## Errors -/

/-- The kinds of errors; a general error brings a code of its own. -/
inductive ErrorKind where
  | general (code : Json)
  | authentication
  | validation
  | transport
  | tokenExchange
  | refreshToken
  | tokenVerification
  | sessionProjection
  | sessionUpdate
  | sessionConflict
  | userinfo
  deriving Repr

namespace ErrorKind

def code : ErrorKind → Json
  | general code => code
  | authentication => .str "AUTHENTICATION_ERROR"
  | validation => .str "VALIDATION_ERROR"
  | transport => .str "TRANSPORT_ERROR"
  | tokenExchange => .str "TOKEN_EXCHANGE_ERROR"
  | refreshToken => .str "REFRESH_TOKEN_ERROR"
  | tokenVerification => .str "TOKEN_VERIFICATION_ERROR"
  | sessionProjection => .str "SESSION_PROJECTION_ERROR"
  | sessionUpdate => .str "SESSION_UPDATE_ERROR"
  | sessionConflict => .str "SESSION_CONFLICT"
  | userinfo => .str "USERINFO_ERROR"

def status : ErrorKind → Nat
  | general _ => 400
  | authentication => 401
  | validation => 400
  | transport => 502
  | tokenExchange => 401
  | refreshToken => 401
  | tokenVerification => 401
  | sessionProjection => 401
  | sessionUpdate => 401
  | sessionConflict => 409
  | userinfo => 502

/-- The message of an error that was given none; a general error has none of its own. -/
def defaultMessage? : ErrorKind → Option String
  | general _ => none
  | authentication => some "Authentication failed"
  | validation => some "Validation failed"
  | transport => some "Transport failure"
  | tokenExchange => some "Token exchange failed"
  | refreshToken => some "Refresh token grant failed"
  | tokenVerification => some "Token verification failed"
  | sessionProjection => some "Session projection failed"
  | sessionUpdate => some "Unable to update session"
  | sessionConflict => some "Session was modified concurrently"
  | userinfo => some "Userinfo lookup failed"

/-- The kind this one is a special case of. -/
def parent? : ErrorKind → Option ErrorKind
  | refreshToken => some tokenExchange
  | _ => none

end ErrorKind

inductive TokenFaultKind where
  /-- Its form, its signature or its payload is at fault. -/
  | token
  /-- A claim is at fault. -/
  | claims
  /-- It has expired. -/
  | expired
  /-- The key it names is no key for its algorithm. -/
  | key
  deriving DecidableEq, Repr

/-- What an error was raised on account of. -/
inductive Cause where
  | error (kind : ErrorKind)
  | document (fault : DocumentFault)
  | integer (fault : IntegerFault)
  /-- The request was not answered; the kind is that of the network's failure. -/
  | network (kind : String)
  | token (kind : TokenFaultKind)
  /-- The source of the keys failed. -/
  | keySource
  deriving Repr

/-- An error that is an answer. Message and details are text and an object, except in errors that
were built from elsewhere with something else. -/
structure AccessError where
  kind : ErrorKind
  message : Json
  details : Json := .obj []
  cause : Option Cause := none
  deriving Repr

namespace AccessError

/-- The message as it stands inside another one. -/
def text (e : AccessError) : Text :=
  e.message.display

def detailMembers (e : AccessError) : Members :=
  e.details.obj?.getD []

/-- The body of the answer, which exists if code and message are text and the details are an
object. -/
def response (e : AccessError) : Checked Members :=
  let body (code message : Text) (details : Members) : Members :=
    [("code", .str code), ("message", .str message), ("details", .obj details)]
  body <$> (Checked.string e.kind.code).under (.member "code")
    <*> (Checked.string e.message).under (.member "message")
    <*> (Checked.object e.details).under (.member "details")

end AccessError

/-! ## Defects -/

/-- A fault that no operation answers for. -/
inductive Defect where
  /-- A value has a type for which the operation has no meaning. -/
  | wrongType
  /-- A value lacks an operation that its type should have. -/
  | unsupported
  /-- A number or a moment is past what can be represented. -/
  | tooLarge
  /-- A text that must be ASCII is not. -/
  | notAscii
  /-- A text that is needed in bytes holds surrogates, which have none. -/
  | notUnicode
  /-- A text is no base64. -/
  | notBase64
  /-- A number in a key is none or not within its bounds. -/
  | badKeyNumber
  | badMoment (fault : MomentFault)
  | badInteger (fault : IntegerFault)
  | badDocument (fault : DocumentFault)
  | noEmail
  /-- A file was read that holds no key document. -/
  | noKeyDocument (path : String)
  /-- A path leads to no file. -/
  | noFile (fault : PathFault)
  | clientClosed
  | invalidUrl
  /-- A request was answered that went to no server. -/
  | noServer
  | duplicateMetric
  /-- A word that is no level of the log. -/
  | unknownLevel
  | badFields (faults : List FieldFault)
  | unsignable
  /-- A value has no text in JSON. -/
  | unwritable
  /-- A session is named that does not exist. -/
  | noSession
  /-- A template has a place that cannot be understood. -/
  | badTemplate
  /-- A name has no value. -/
  | missingName
  deriving Repr

namespace Defect

/-- The defect of a record with faults. -/
def ofFaults (faults : List FieldFault) : Defect :=
  if faults.any (·.kind = .tooDeep) then badDocument .tooDeep else badFields faults

def message? : Defect → Option String
  | badMoment (.malformed text) => some s!"Invalid isoformat string: {(Json.str text).literal}"
  | badInteger (.malformed text) =>
    let shown := String.ofList ((Json.str text).literalChars.take 200)
    some s!"invalid literal for int() with base 10: {shown}"
  | badDocument (.unreadable text fault) =>
    if fault.isSyntax then some (fault.message text) else none
  | noEmail => some "session requires a non-empty email"
  | noKeyDocument path => some s!"{path} is not a JWKS document (missing 'keys' array)"
  | _ => none

end Defect

/-! ## Errors from options -/

namespace AccessError

/-- The names of what an error may be given. -/
def optionNames : List Text := ["message", "details"]

/-- The error of a kind with the given message and details. A message there is none for has to be
given, and details that are not set are none. -/
def ofOptions (kind : ErrorKind) (options : Members) : Except Defect AccessError :=
  let message := (options.get? "message").orElse fun _ ↦ kind.defaultMessage?.map .str
  match message with
  | some message =>
    if options.names.all optionNames.contains then
      .ok { kind, message, details := (options.get "details").orElse (.obj []) }
    else .error .wrongType
  | none => .error .wrongType

/-- A general error, whose code has to be given as well. -/
def generalOfOptions (options : Members) : Except Defect AccessError :=
  match options.get? "code" with
  | some code => ofOptions (.general code) (options.erase "code")
  | none => .error .wrongType

end AccessError

inductive Failure where
  | refused (error : AccessError)
  | defect (defect : Defect)
  deriving Repr

/-- The failure with its error changed; defects stay as they are. -/
def Failure.map (f : AccessError → AccessError) : Failure → Failure
  | refused error => refused (f error)
  | defect fault => defect fault

end SessionGate
