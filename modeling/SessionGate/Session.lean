import SessionGate.Failure

/-!
# Sessions

A session is what is known about one user at one provider: the tokens, when they expire, the email,
and a version that counts how often this was replaced. The five credentials only ever change
together, so they are a record of their own, and `Session.commit` is the only operation that
replaces it.

## Untyped records

Sessions live in stores of their callers and come back as objects. `Session.ofMembers` reads such an
object without checking the types of its fields: a field of another type is kept as it is, and
causes a defect in the first operation that has no meaning for it. Two things are guaranteed
whatever the object holds: the version is an integer and the email is set.
-/

namespace SessionGate

inductive Expiry where
  | unset
  | at (moment : Moment)
  /-- A value that is no moment. -/
  | odd (value : Json)
  deriving Repr

namespace Expiry

/-- The text of the moment; nothing where there is none. -/
def text? : Expiry → Except Defect (Option String)
  | unset => .ok none
  | .at moment => .ok (some moment.iso)
  | odd value => if value.isSet then .error .unsupported else .ok none

def same : Expiry → Expiry → Bool
  | unset, unset => true
  | .at m, .at n => m.same n
  | odd v, odd w => v.same w
  | _, _ => false

/-- A text is read as a moment, and one without a zone shows universal time. -/
def ofJson : Json → Except Defect Expiry
  | .null => .ok .unset
  | .str s =>
    match Moment.readIso s with
    | .ok moment => .ok (.at moment.orUniversal)
    | .error fault => .error (.badMoment fault)
  | v => .ok (.odd v)

/-- As JSON, a moment as its text. -/
def toJson : Expiry → Json
  | unset => .null
  | .at moment => .str moment.iso
  | odd value => value

end Expiry

structure Credentials where
  accessToken : Json
  idToken : Json
  refreshToken : Json
  expiresOn : Expiry
  email : Json
  email_isSet : email.isSet = true

namespace Credentials

def same (a b : Credentials) : Bool :=
  a.accessToken.same b.accessToken && a.idToken.same b.idToken && a.email.same b.email &&
    a.refreshToken.same b.refreshToken && a.expiresOn.same b.expiresOn

end Credentials

/-- A session: its credentials and how often they were replaced. -/
structure Session where
  credentials : Credentials
  version : Int

namespace Session

def email (s : Session) : Json := s.credentials.email

def idToken (s : Session) : Json := s.credentials.idToken

def accessToken (s : Session) : Json := s.credentials.accessToken

def refreshToken (s : Session) : Json := s.credentials.refreshToken

def expiresOn (s : Session) : Expiry := s.credentials.expiresOn

/-- Equality of the credentials; the version does not count. -/
def same (a b : Session) : Bool :=
  a.credentials.same b.credentials

/-! ## Expiry -/

/-- False only while the session expires later than `now`. -/
def isExpired (s : Session) (now : Moment) : Except Defect Bool :=
  match s.expiresOn with
  | .unset => .ok true
  | .odd _ => .error .wrongType
  | .at moment =>
    match moment.later? now with
    | some later => .ok (!later)
    | none => .error .wrongType

/-! ## Commits -/

/-- The session with its credentials replaced by those of `fresh`. -/
def replaced (s fresh : Session) : Session :=
  ⟨fresh.credentials, s.version + 1⟩

/-- The error of a commit that was made for another version. -/
def conflict (expected : Json) (version : Int) : AccessError where
  kind := .sessionConflict
  message := .str "session was refreshed by another writer"
  details := .obj [("expected_version", expected), ("version", .int version)]

/-- Replaces the credentials, provided that the session has the expected version if there is one. -/
def commit (s fresh : Session) (expected : Json) : Except AccessError Session :=
  if expected.isNull || expected.same (.int s.version) then .ok (s.replaced fresh)
  else .error (conflict expected s.version)

/-! ## Records -/

/-- A session whose email is set. -/
def make (accessToken idToken refreshToken : Json) (expiresOn : Expiry) (email : Json)
    (version : Int) : Except Defect Session :=
  if h : email.isSet = true then
    .ok ⟨⟨accessToken, idToken, refreshToken, expiresOn, email, h⟩, version⟩
  else .error .noEmail

/-- A member of a record, with the default for one that is not there. -/
def member (ms : Members) (name : String) (default : Json) : Json :=
  (ms.get? name).getD default

def ofMembers (ms : Members) : Except Defect Session :=
  match Expiry.ofJson (ms.get "expires_on") with
  | .error fault => .error fault
  | .ok expiresOn =>
    match (member ms "version" (.int 0)).toInteger with
    | .error fault => .error (.badInteger fault)
    | .ok version =>
      make (member ms "access_token" (.str "")) (member ms "id_token" (.str ""))
        ((ms.get "refresh_token").orElse (.str "")) expiresOn (member ms "email" (.str "")) version

/-- The record of a session with the given expiry. -/
def membersWith (s : Session) (expiresOn : Json) : Members :=
  [("access_token", s.accessToken), ("id_token", s.idToken), ("refresh_token", s.refreshToken),
    ("expires_on", expiresOn), ("email", s.email), ("version", .int s.version)]

/-- The record of a session; there is none where the expiry has no text. -/
def toMembers (s : Session) : Except Defect Members :=
  match s.expiresOn.text? with
  | .ok (some text) => .ok (s.membersWith (.str text))
  | .ok none => .ok (s.membersWith .null)
  | .error fault => .error fault

/-- The session in one line, without its tokens. -/
def describe (s : Session) : Except Defect Text :=
  match s.expiresOn.text? with
  | .ok text =>
    let expires := text.getD "never"
    let refresh := if s.refreshToken.isSet then "yes" else "no"
    .ok ("Session\x7bemail:" ++ s.email.display ++
      s!" expires:{expires} refresh_token:{refresh}\x7d")
  | .error fault => .error fault

end Session

end SessionGate
