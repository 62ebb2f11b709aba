import SessionGate.Verifier.Signing

/-!
# Samples of users, claims and token responses

What an identity provider would say about a user, with a default for everything that nobody asks
about. Whoever tries a verifier or a provider out names what matters and takes the rest as it is.
-/

namespace SessionGate.Fixture

/-! ## Users -/

structure User where
  id : String
  email : String
  roles : List String
  emailVerified : Bool := true
  deriving DecidableEq, Repr

def users : List User :=
  [⟨"user1", "john.doe@254carbon.com", ["user", "analyst"], true⟩,
    ⟨"user2", "jane.smith@254carbon.com", ["user", "admin"], true⟩,
    ⟨"admin", "admin@254carbon.com", ["admin", "superuser"], true⟩]

def User.toMembers (u : User) : Members :=
  [("user_id", .str u.id), ("email", .str u.email),
    ("roles", .arr (u.roles.map fun role : String ↦ .str role)),
    ("email_verified", .bool u.emailVerified)]

/-! ## Claims -/

def issuer : String := "http://localhost:8080/realms/254carbon"

def clientId : String := "access-layer"

/-- What claims are made of. An email, its verification and the roles are left out where they are
null; further claims are written over the others. -/
structure ClaimOptions where
  email : Json := .str "foo@example.com"
  emailVerified : Json := .bool true
  roles : Json := .null
  subject : Json := .str "user1"
  expiresIn : Json := .int 3600
  issuer : Json := .str Fixture.issuer
  audience : Json := .str clientId
  further : Members := []

namespace ClaimOptions

/-- The names of the options; any other name is that of a further claim. -/
def names : List Text :=
  ["email", "email_verified", "roles", "subject", "expires_in", "issuer", "audience"]

def ofMembers (ms : Members) : ClaimOptions :=
  let base : ClaimOptions := {}
  let option (name : String) (default : Json) := (ms.get? name).getD default
  { email := option "email" base.email
    emailVerified := option "email_verified" base.emailVerified
    roles := option "roles" base.roles
    subject := option "subject" base.subject
    expiresIn := option "expires_in" base.expiresIn
    issuer := option "issuer" base.issuer
    audience := option "audience" base.audience
    further := ms.filter fun m ↦ !names.contains m.1 }

end ClaimOptions

/-- A whole number of seconds and a number. -/
def addSeconds (seconds : Int) : Json → Except Defect Json
  | .int n => .ok (.int (seconds + n))
  | .bool b => .ok (.int (seconds + if b then 1 else 0))
  | .float x => .ok (.float ((Binary64.ofInt seconds).add x))
  | _ => .error .wrongType

/-- A member that is left out where its value is null. -/
def present (name : Text) (v : Json) : Members :=
  if v.isNull then [] else [(name, v)]

def claims (now : Moment) (o : ClaimOptions) : Except Defect Members :=
  let second := now.timestamp.truncate?.getD 0
  match addSeconds second o.expiresIn with
  | .error defect => .error defect
  | .ok expiry =>
    let roles := if o.roles.isNull then .null else .obj [("roles", o.roles)]
    let always : Members :=
      [("iss", o.issuer), ("aud", o.audience), ("sub", o.subject), ("iat", .int second),
        ("exp", expiry)]
    let named := always ++ present "email" o.email ++ present "email_verified" o.emailVerified ++
        present "realm_access" roles
    .ok (named.override o.further)

/-- A signed token with the claims that are made at a moment. -/
def idToken (key : SigningKey) (now : Moment) (o : ClaimOptions) : Except Defect String :=
  match claims now o with
  | .ok claims => key.token claims
  | .error defect => .error defect

/-! ## Token responses -/

def responseNames : List Text :=
  ["id_token", "access_token", "refresh_token", "expires_in"]

/-- The answer of a token endpoint. The identity token has to be named, if only as null; other
names than those of the options have no meaning. -/
def tokenResponse (options : Members) : Except Defect Members :=
  let option (name : String) (default : Json) := (options.get? name).getD default
  if !options.names.all responseNames.contains then .error .wrongType
  else
    match options.get? "id_token" with
    | none => .error .wrongType
    | some idToken =>
      let granted : Members :=
        [("access_token", option "access_token" (.str "AT1")), ("token_type", .str "Bearer"),
          ("expires_in", option "expires_in" (.int 3600))]
      .ok (granted ++ present "refresh_token" (option "refresh_token" (.str "RT1")) ++
        present "id_token" idToken)

end SessionGate.Fixture
