import SessionGate.ProviderData
import SessionGate.Verifier

/-!
# The provider

A provider turns grants into sessions, keeps sessions fresh and says who is let in. It puts the
token endpoint, the verifier and the userinfo endpoint together.

## Projection

`Provider.project` makes a session of a bundle. The identity token must verify and name an email,
and the email must be verified. It is a function of the bundle and the second.

## Refreshing

A refresh is a grant in flight with a session at both ends. `Session.beginRefresh` looks at the
session before the grant and keeps what is needed afterwards; `PendingRefresh.finish` looks at the
session again and commits, provided that nobody else has committed meanwhile. What fails in between
leaves the session alone.
-/

namespace SessionGate

structure Provider where
  data : ProviderData
  verifier : Verifier
  deriving Repr

/-! ## Refreshing a session -/

/-- What a refresh keeps while its grant is in flight: the version and the expiry it saw, and the
refresh token it posts. -/
structure PendingRefresh where
  version : Int
  expiresOn : Expiry
  refreshToken : Json

namespace Session

/-- A session is refreshed if it can be and has expired. -/
def needsRefresh (s : Session) (now : Moment) : Except Defect Bool :=
  if s.refreshToken.isSet then s.isExpired now else .ok false

/-- The start of a refresh, if the session needs one. -/
def beginRefresh (s : Session) (now : Moment) : Except Defect (Option PendingRefresh) :=
  match s.needsRefresh now with
  | .error fault => .error fault
  | .ok false => .ok none
  | .ok true => .ok (some ⟨s.version, s.expiresOn, s.refreshToken⟩)

/-- The fresh session, with the refresh token of this one if it has none. -/
def carryOver (s fresh : Session) : Session :=
  if fresh.refreshToken.isSet then fresh
  else ⟨{ fresh.credentials with refreshToken := s.refreshToken }, fresh.version⟩

end Session

/-- The session after a refresh, if no other commit came in between. -/
def PendingRefresh.finish (p : PendingRefresh) (s fresh : Session) : Except AccessError Session :=
  s.commit (s.carryOver fresh) (.int p.version)

/-! ## Projecting a bundle -/

inductive ProjectionFault where
  | noIdToken
  | unverified (fault : VerificationFault)
  | noEmail
  | emailNotVerified (email : Text)
  deriving Repr

namespace ProjectionFault

def projection (message : Text) (details : Members) : Failure :=
  .refused { kind := .sessionProjection, message := .str message, details := .obj details }

def toFailure : ProjectionFault → Failure
  | noIdToken => projection "token response missing identity token" []
  | unverified fault =>
    match fault.toFailure with
    | .defect d => .defect d
    | .refused error =>
      .refused {
        kind := .tokenVerification
        message := .str ("could not verify identity token: " ++ error.text)
        details := error.details
        cause := some (.error error.kind) }
  | noEmail => projection "identity token did not contain an email" []
  | emailNotVerified email =>
    projection ("email in identity token (" ++ email ++ ") isn't verified") [("email", .str email)]

def entries : ProjectionFault → List LogEntry
  | unverified fault => fault.entries
  | _ => []

end ProjectionFault

namespace Provider

/-- The session of a bundle whose identity token has the given claims. -/
def sessionOf (p : Provider) (bundle : TokenBundle) (idToken : Text) (claims : Members) :
    Except ProjectionFault Session :=
  match (claims.get "email").nonEmptyStr? with
  | none => .error .noEmail
  | some email =>
    if p.data.emailVerified claims then
      let expiresOn := (bundle.expiry.map Expiry.at).getD .unset
      match Session.make (.str bundle.accessToken) (.str idToken) bundle.refreshToken expiresOn
          (.str email) 0 with
      | .ok s => .ok s
      | .error _ => .error .noEmail
    else .error (.emailNotVerified email)

/-- The session of a bundle in the second `now`. -/
def project (p : Provider) (now : Int) (bundle : TokenBundle) : Except ProjectionFault Session :=
  match bundle.idToken? with
  | none => .error .noIdToken
  | some idToken =>
    match p.verifier.check now (.str idToken) with
    | .error fault => .error (.unverified fault)
    | .ok claims => p.sessionOf bundle idToken claims

def createSession (p : Provider) (bundle : TokenBundle) : Action Session := do
  match p.project (← Action.now).seconds bundle with
  | .ok s => return s
  | .error fault =>
    Action.logAll fault.entries
    Action.lift (.error fault.toFailure)

/-! ## Sessions from grants -/

/-- The details of an error that was raised on account of another one. -/
def causeDetails (error : AccessError) : Members := [("cause", error.kind.code)]

/-- The error of a code that could not be redeemed. -/
def redeemError (error : AccessError) : AccessError where
  kind := .tokenExchange
  message := .str ("token exchange: " ++ error.text)
  details := .obj (Members.override (causeDetails error) error.detailMembers)
  cause := some (.error error.kind)

/-- The error of a refresh token that could not be redeemed. -/
def refreshError (error : AccessError) : AccessError where
  kind := .refreshToken
  message := .str ("unable to redeem refresh token: " ++ error.text)
  details := .obj (causeDetails error)
  cause := some (.error error.kind)

/-- The error of a bundle that gives no session. -/
def updateError (error : AccessError) : AccessError where
  kind := .sessionUpdate
  message := .str ("unable to update session: " ++ error.text)
  details := .obj (causeDetails error)
  cause := some (.error error.kind)

def redeem (p : Provider) (redirectUrl code : Text) : Action Session := do
  let bundle ← (p.data.tokenEndpoint.exchange (.code code redirectUrl)).mapError redeemError
  (p.createSession bundle).mapError updateError

/-- Whether a session needs to be refreshed; no session never does. -/
def needsRefresh (session : Option Session) (now : Moment) : Except Defect Bool :=
  match session with
  | none => .ok false
  | some s => s.needsRefresh now

/-- The session that a pending refresh trades its token for. -/
def redeemRefresh (p : Provider) (pending : PendingRefresh) : Action Session := do
  let bundle ←
    (p.data.tokenEndpoint.exchange (.refresh pending.refreshToken)).mapError refreshError
  (p.createSession bundle).mapError updateError

/-- A fresh session in place of one that needs it, which is itself left alone. -/
def refreshSession (p : Provider) (name : Option String) : Action (Option Session) := do
  match name with
  | none => return none
  | some name =>
    let s ← Action.session name
    match ← Action.liftDefect (s.beginRefresh (← Action.now)) with
    | none => return none
    | some pending =>
      let fresh ← p.redeemRefresh pending
      return some ((← Action.session name).carryOver fresh)

def logger : String := "auth.oidc"

def refreshedEntry (after : Session) (expiredOn expiresOn : Option String) : LogEntry :=
  let text (t : Option String) : Json := (t.map fun s ↦ .str s).getD .null
  ⟨logger, .info, .str "refreshed id token",
    [("user", after.email), ("expired_on", text expiredOn), ("expires_on", text expiresOn)]⟩

/-- Refreshes a session in place if it needs it, and says whether it did. -/
def refreshIfNeeded (p : Provider) (name : Option String) : Action Bool := do
  match name with
  | none => return false
  | some name =>
    let before ← Action.session name
    match ← Action.liftDefect (before.beginRefresh (← Action.now)) with
    | none => return false
    | some pending =>
      let fresh ← p.redeemRefresh pending
      match pending.finish (← Action.session name) fresh with
      | .error error => Action.refuse error
      | .ok after =>
        Action.setSession name after
        let expiredOn ← Action.liftDefect pending.expiresOn.text?
        let expiresOn ← Action.liftDefect after.expiresOn.text?
        Action.log (refreshedEntry after expiredOn expiresOn)
        return true

/-! ## Who is let in -/

def setGroups (groups : List Text) (source : RoleSource) : Action Unit :=
  modify fun w ↦ { w with policy := .restrictedTo groups source }

/-- What a policy says about a user. -/
inductive Decision where
  | unrestricted
  | allowed
  | unverified (fault : VerificationFault)
  | denied (claims : Members)
  deriving Repr

/-- The decision of a policy about an identity token in the second `now`. -/
def judge (p : Provider) (policy : GroupPolicy) (now : Int) (idToken : Json) : Decision :=
  if !policy.restricts then .unrestricted
  else
    match p.verifier.check now idToken with
    | .error fault => .unverified fault
    | .ok claims => if policy.matchesClaims claims then .allowed else .denied claims

namespace Decision

def admits : Decision → Bool
  | unrestricted => true
  | allowed => true
  | _ => false

def entries (policy : GroupPolicy) (email : Json) : Decision → List LogEntry
  | unverified fault =>
    match fault.toFailure with
    | .refused error =>
      fault.entries ++ [⟨logger, .warning, .str "Could not verify identity token",
        [("user", email), ("error", error.message)]⟩]
    | .defect _ => fault.entries
  | denied claims =>
    [⟨logger, .warning, .str "User does not have required roles",
      [("user", email), ("roles", .arr ((policy.source.roles claims).map .str)),
        ("required", .arr (policy.sortedGroups.map .str))]⟩]
  | _ => []

/-- The answer, unless the verification met a defect. -/
def answer : Decision → Except Defect Bool
  | unverified fault =>
    match fault.toFailure with
    | .refused _ => .ok false
    | .defect d => .error d
  | decision => .ok decision.admits

end Decision

/-- Whether a policy lets the user of a session in. -/
def validateUnder (p : Provider) (policy : GroupPolicy) (s : Session) : Action Bool := do
  let decision := p.judge policy (← Action.now).seconds s.idToken
  Action.logAll (decision.entries policy s.email)
  Action.liftDefect decision.answer

/-- Whether the installed policy lets the user of a session in. The policy is the one at the
beginning: one that is installed while keys are being loaded comes too late. -/
def validateGroup (p : Provider) (s : Session) : Action Bool := do
  p.validateUnder (← get).policy s

/-- Whether the identity token of a session verifies. -/
def validateSession (p : Provider) (s : Session) : Action Bool := do
  match p.verifier.check (← Action.now).seconds s.idToken with
  | .ok _ => return true
  | .error fault =>
    Action.logAll fault.entries
    match fault.toFailure with
    | .refused _ => return false
    | .defect d => Action.escape d

/-- The email of a session at the userinfo endpoint. -/
def emailAddress (p : Provider) (s : Session) : Action Text :=
  p.data.userinfo.fetchEmail s.accessToken

def close : Action Unit :=
  modify fun w ↦ { w with isClosed := true }

end Provider

end SessionGate
