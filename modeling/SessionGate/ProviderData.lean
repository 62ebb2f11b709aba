import SessionGate.Checked.Scalar
import SessionGate.TokenEndpoint
import SessionGate.Userinfo

/-!
# The settings of a provider

Who we are to a provider, where its endpoints are, and whom it lets in. `ProviderData.ofMembers`
checks an object for them.
-/

namespace SessionGate

structure ProviderData where
  providerName : Text := "OpenID Connect"
  clientId : Text
  clientSecret : Text := ""
  redeemUrl : Text
  validateUrl : Text
  issuerUrl : Option Text := none
  allowedGroups : List Text := []
  requireEmailVerified : Bool := false
  deriving DecidableEq, Repr

namespace ProviderData

/-- Whether the claims say that the email is verified; if they say nothing, they are trusted
unless that is required. -/
def emailVerified (d : ProviderData) (claims : Members) : Bool :=
  match claims.get "email_verified" with
  | .null => !d.requireEmailVerified
  | .bool b => b
  | _ => false

def tokenEndpoint (d : ProviderData) : TokenEndpoint :=
  ⟨d.clientId, d.clientSecret, d.redeemUrl⟩

def userinfo (d : ProviderData) : Userinfo :=
  ⟨d.validateUrl⟩

/-- The policy a provider begins with. -/
def policy (d : ProviderData) : GroupPolicy :=
  .restrictedTo d.allowedGroups

def ofMembers (ms : Members) : Checked ProviderData :=
  ProviderData.mk
    <$> Checked.optional ms "provider_name" "OpenID Connect" Checked.string
    <*> Checked.required ms "client_id" Checked.string
    <*> Checked.optional ms "client_secret" "" Checked.string
    <*> Checked.required ms "redeem_url" Checked.string
    <*> Checked.required ms "validate_url" Checked.string
    <*> Checked.optional ms "issuer_url" none (Checked.nullable Checked.string)
    <*> Checked.optional ms "allowed_groups" [] (Checked.list Checked.string)
    <*> Checked.optional ms "require_email_verified" false Checked.bool

def toMembers (d : ProviderData) : Members :=
  [("provider_name", .str d.providerName), ("client_id", .str d.clientId),
    ("client_secret", .str d.clientSecret), ("redeem_url", .str d.redeemUrl),
    ("validate_url", .str d.validateUrl), ("issuer_url", (d.issuerUrl.map Json.str).getD .null),
    ("allowed_groups", .arr (d.allowedGroups.map .str)),
    ("require_email_verified", .bool d.requireEmailVerified)]

end ProviderData

end SessionGate
