import SessionGate.Moment.Lax
import SessionGate.Session

/-!
# What requests bring

The records in the bodies of requests to the service for sessions: an authorization code that is to
be redeemed, or a session as the store of the caller holds it.
-/

namespace SessionGate

/-- A code to be redeemed, and the address it was sent to. -/
structure CodePayload where
  code : String
  redirectUrl : String
  deriving DecidableEq, Repr

def CodePayload.ofMembers (ms : Members) : Checked CodePayload :=
  CodePayload.mk <$> Checked.required ms "code" Checked.filledString
    <*> Checked.required ms "redirect_url" Checked.filledString

/-- A session of a caller. -/
structure SessionPayload where
  accessToken : Text
  idToken : Text
  email : String
  refreshToken : Text
  expiresOn : Option Moment
  version : Int
  deriving DecidableEq, Repr

namespace SessionPayload

def ofMembers (ms : Members) : Checked SessionPayload :=
  SessionPayload.mk <$> Checked.required ms "access_token" Checked.string
    <*> Checked.required ms "id_token" Checked.string
    <*> Checked.required ms "email" Checked.filledString
    <*> Checked.optional ms "refresh_token" (.plain "") Checked.string
    <*> Checked.optional ms "expires_on" none (Checked.nullable Checked.moment)
    <*> Checked.optional ms "version" 0 Checked.int

/-- The session payload of a request, which is a member of its body. -/
def ofBody (ms : Members) : Checked SessionPayload :=
  Checked.required ms "session" (Checked.record ofMembers)

/-- The session that is meant; a moment without a zone shows universal time. -/
def toSession (p : SessionPayload) : Except Defect Session :=
  Session.make (.str p.accessToken) (.str p.idToken) (.str p.refreshToken)
    ((p.expiresOn.map fun moment ↦ Expiry.at moment.orUniversal).getD .unset) (.str p.email)
    p.version

end SessionPayload

end SessionGate
