import SessionGate.Json.Document
import SessionGate.ProviderData
import SessionGate.Settings.Dotenv
import SessionGate.Text.Case
import SessionGate.Text.Parts

/-!
# Settings

The settings of a service come from the environment and, for names that are not there, from a
settings file; what neither has gets a default. Names have a prefix of their own, and their case
does not matter. The name and the port of the service are given by the service itself.

## Groups

The allowed groups are one text with commas between them. A list in JSON is accepted as well and
turned into that form, so a group whose name holds a comma comes apart.
-/

namespace SessionGate

open Text

structure Settings where
  env : String
  logLevel : String
  httpTimeout : Binary64
  providerName : String
  clientId : String
  clientSecret : String
  issuerUrl : String
  redeemUrl : String
  validateUrl : String
  keyFile : Option String
  /-- The allowed groups with commas between them. -/
  groupNames : Text
  requireEmailVerified : Bool
  serviceName : Text
  port : Int
  host : String
  deriving Repr

namespace Settings

/-! ## Sources -/

/-- What names begin with. -/
def namePrefix : String := "access_"

/-- The settings of a source by their names in lower case, without the prefix; of names that differ
only in case the last one counts, also if it has no value. -/
def ofSource (pairs : List (String × Option String)) : Members :=
  pairs.foldl (fun ms p ↦
    let name := (lower p.1).toList
    let key := String.ofList (name.drop namePrefix.length)
    if namePrefix.toList.isPrefixOf name then
      match p.2 with
      | some value => ms.insert key (.str value)
      | none => ms.erase key
    else ms) []

/-! ## Groups -/

/-- The groups of a list that holds nothing but texts. -/
def joinGroups (items : List Json) : Checked Text :=
  match items.mapM Json.str? with
  | some names => .valid (.ofPoints ([.char ','].intercalate (names.map Text.points)))
  | none => Checked.fault (.rule "oidc_allowed_groups entries must be strings")

/-- The groups in the form of one text. -/
def normalizeGroups (s : Text) : Checked Text :=
  if (trimPoints s.points).head? = some (.char '[') then
    match Json.ofText s.points with
    | .ok (.arr items) => joinGroups items
    | .ok _ => .valid s
    | .error .tooDeep => Checked.fault .tooDeep
    | .error fault =>
      let message := fault.message
      Checked.fault (.rule
        (if fault.isSyntax then s!"oidc_allowed_groups is not a valid JSON list: {message}"
          else message))
  else .valid s

def groups : Json → Checked Text
  | .str s => normalizeGroups s
  | .arr items => joinGroups items
  | _ => Checked.fault .notString

/-- The allowed groups: the parts between the commas, without blanks around them. -/
def allowedGroups (s : Settings) : List Text :=
  ((splitOn (.char ',') s.groupNames.points).map fun part ↦ .ofPoints (trimPoints part)).filter
    (· ≠ "")

/-! ## Reading -/

/-- The settings in an object of all sources; the name and the port of the service stand beside
it. -/
def ofMembers (ms : Members) (serviceName port : Json) : Checked Settings :=
  let given : Members := [("service_name", serviceName), ("port", port)]
  let text (name default : String) := Checked.optional ms name default Checked.characters
  Settings.mk
    <$> text "env" "local"
    <*> text "log_level" "info"
    <*> Checked.optional ms "http_timeout" (Binary64.ofNat 10) Checked.float
    <*> text "oidc_provider_name" "OpenID Connect"
    <*> text "oidc_client_id" "access-layer"
    <*> text "oidc_client_secret" ""
    <*> text "oidc_issuer_url" "http://localhost:8080/realms/254carbon"
    <*> text "oidc_redeem_url"
      "http://localhost:8080/realms/254carbon/protocol/openid-connect/token"
    <*> text "oidc_validate_url"
      "http://localhost:8080/realms/254carbon/protocol/openid-connect/userinfo"
    <*> Checked.optional ms "oidc_jwks_path" none (Checked.nullable Checked.characters)
    <*> Checked.optional ms "oidc_allowed_groups" "" groups
    <*> Checked.optional ms "oidc_require_email_verified" false Checked.bool
    <*> Checked.required given "service_name" Checked.string
    <*> Checked.required given "port" Checked.int
    <*> text "host" "0.0.0.0"

/-- Reads the settings of a service: the environment goes over the file. -/
def read (environment : List (String × String)) (file : Option String)
    (serviceName port : Json) : Checked Settings :=
  let environment := environment.map fun (name, value) ↦ (name, some value)
  let fromFile := (file.map (Dotenv.read environment)).getD []
  ofMembers (Members.override (ofSource fromFile) (ofSource environment)) serviceName port

def toMembers (s : Settings) : Members :=
  [("env", .str s.env), ("log_level", .str s.logLevel), ("http_timeout", .float s.httpTimeout),
    ("oidc_provider_name", .str s.providerName), ("oidc_client_id", .str s.clientId),
    ("oidc_client_secret", .str s.clientSecret), ("oidc_issuer_url", .str s.issuerUrl),
    ("oidc_redeem_url", .str s.redeemUrl), ("oidc_validate_url", .str s.validateUrl),
    ("oidc_jwks_path", (s.keyFile.map fun path ↦ .str path).getD .null),
    ("oidc_allowed_groups", .str s.groupNames),
    ("oidc_require_email_verified", .bool s.requireEmailVerified),
    ("service_name", .str s.serviceName), ("port", .int s.port), ("host", .str s.host),
    ("allowed_groups", .arr (s.allowedGroups.map .str))]

def providerData (s : Settings) : ProviderData where
  providerName := s.providerName
  clientId := s.clientId
  clientSecret := s.clientSecret
  redeemUrl := s.redeemUrl
  validateUrl := s.validateUrl
  issuerUrl := some s.issuerUrl
  allowedGroups := s.allowedGroups
  requireEmailVerified := s.requireEmailVerified

end Settings

end SessionGate
