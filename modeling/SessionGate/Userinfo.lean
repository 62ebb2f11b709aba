import SessionGate.World

/-!
# The userinfo endpoint

The endpoint answers for whom an access token was issued. `Userinfo.read` finds the email in an
answer, and `Userinfo.fetchEmail` asks for it.
-/

namespace SessionGate

structure Userinfo where
  url : Text
  deriving DecidableEq, Repr

namespace Userinfo

/-- The request that presents a token. -/
def request (u : Userinfo) (token : Json) : Request where
  client := .lookups
  method := "GET"
  url := u.url
  authorization := some ("Bearer " ++ token.display)
  accept := some "application/json"

def refused (status : Int) : AccessError where
  kind := .transport
  message := .str s!"userinfo endpoint returned {status}"
  details := .obj [("status_code", .int status)]

def unusable (message : Text) (cause : Option Cause) : Failure :=
  .refused { kind := .userinfo, message := .str message, cause }

def read (r : Response) : Except Failure Text :=
  if r.status ≠ 200 then .error (.refused (refused r.status))
  else
    match Json.ofBytes r.body with
    | .error .tooDeep => .error (.defect (.badDocument .tooDeep))
    | .error fault =>
      .error (unusable (.plain s!"userinfo response is not JSON: {fault.message}")
        (some (.document fault)))
    | .ok (.obj ms) =>
      match (Members.get ms "email").nonEmptyStr? with
      | some email => .ok email
      | none => .error (unusable "userinfo response did not contain an email" none)
    | .ok _ => .error (unusable "userinfo response is not a JSON object" none)

def logger : String := "auth.userinfo"

def unreachable (u : Userinfo) (fault : NetworkFault) : AccessError where
  kind := .transport
  message := .str ("userinfo request failed: " ++ fault.message)
  details := .obj [("url", .str u.url)]
  cause := some (.network fault.kind)

def entries (r : Response) : List LogEntry :=
  if r.status ≠ 200 then
    [⟨logger, .warning, .str "Userinfo request rejected", [("status_code", .int r.status)]⟩]
  else []

def fetchEmail (u : Userinfo) (token : Json) : Action Text := do
  match ← Action.send (u.request token) with
  | .error fault =>
    Action.log ⟨logger, .error, .str "failed making request",
      [("url", .str u.url), ("error", .str fault.message)]⟩
    Action.refuse (u.unreachable fault)
  | .ok response =>
    Action.logAll (entries response)
    Action.lift (read response)

end Userinfo

end SessionGate
