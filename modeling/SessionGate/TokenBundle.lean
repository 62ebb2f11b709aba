import SessionGate.Failure

/-!
# Token bundles

What a token endpoint answers to a grant. `TokenBundle.ofMembers` reads the answer: the access
token must be there, the lifetime must be a number if it is given, and everything else is taken as
it is.
-/

namespace SessionGate

/-- The tokens of a grant. `extra` holds the whole answer. -/
structure TokenBundle where
  accessToken : Text
  tokenType : Json
  refreshToken : Json
  expiry : Option Moment
  extra : Members
  deriving Repr

namespace TokenBundle

/-- The identity token of the answer, if it has one that can be verified. -/
def idToken? (b : TokenBundle) : Option Text :=
  (b.extra.get "id_token").nonEmptyStr?

def noAccessToken (payload : Members) : AccessError where
  kind := .tokenExchange
  message := .str "server response missing access_token"
  details := .obj [("fields", .arr ((payload.names.mergeSort (· ≤ ·)).map .str))]

def badLifetime (value : Json) (fault : IntegerFault) : AccessError where
  kind := .tokenExchange
  message := .str s!"invalid expires_in: {value.literal}"
  cause := some (.integer fault)

/-- The lifetime in seconds; none where it is null or empty. An infinite one is not refused but
past what can be represented. -/
def lifetime? (value : Json) : Except Failure (Option Int) :=
  if value.isNull || value.same (.str "") then .ok none
  else
    match value.toInteger with
    | .ok seconds => .ok (some seconds)
    | .error .infinite => .error (.defect .tooLarge)
    | .error fault => .error (.refused (badLifetime value fault))

/-- When tokens received at a moment expire. A lifetime that is not positive sets no expiry. -/
def expiryAfter (receivedAt : Moment) (seconds : Option Int) : Except Failure (Option Moment) :=
  match seconds with
  | none => .ok none
  | some seconds =>
    if 0 < seconds then
      match receivedAt.addSeconds? seconds.toNat with
      | some moment => .ok (some moment)
      | none => .error (.defect .tooLarge)
    else .ok none

/-- The bundle in an answer that was received at a moment. -/
def ofMembers (payload : Members) (receivedAt : Moment) : Except Failure TokenBundle :=
  match (payload.get "access_token").nonEmptyStr? with
  | none => .error (.refused (noAccessToken payload))
  | some accessToken => do
    let seconds ← lifetime? (payload.get "expires_in")
    let expiry ← expiryAfter receivedAt seconds
    return {
      accessToken
      tokenType := (payload.get "token_type").orElse (.str "Bearer")
      refreshToken := (payload.get "refresh_token").orElse (.str "")
      expiry
      extra := payload }

end TokenBundle

end SessionGate
