import SessionGate.Failure

/-!
# Claims

A token that carries a valid signature still has to be meant for us, here and now.
`Expectations` holds what we expect of its claims, and `Expectations.check` asks one claim after the
other and reports the first that is at fault.

Times are whole seconds since 1970. A claim that is not there is not checked, except that an
expected issuer must be named.
-/

namespace SessionGate

inductive ClaimFault where
  | issuedAtForm
  | notBeforeForm
  | notYetValid
  | expiryForm
  | expired
  | audienceForm
  | audience
  | issuer
  | subjectForm
  | tokenIdForm
  /-- A time is of no type that times have, or infinite. -/
  | defect (defect : Defect)
  deriving Repr

namespace ClaimFault

def message : ClaimFault → String
  | issuedAtForm => "Issued At claim (iat) must be an integer."
  | notBeforeForm => "Not Before claim (nbf) must be an integer."
  | notYetValid => "The token is not yet valid (nbf)"
  | expiryForm => "Expiration Time claim (exp) must be an integer."
  | expired => "Signature has expired."
  | audienceForm => "Invalid claim format in token"
  | audience => "Invalid audience"
  | issuer => "Invalid issuer"
  | subjectForm => "Subject must be a string."
  | tokenIdForm => "JWT ID must be a string."
  | defect _ => ""

end ClaimFault

structure Expectations where
  issuer : Option Text
  audience : Option Text
  /-- The seconds by which clocks may differ. -/
  leeway : Int := 0
  deriving DecidableEq, Repr

namespace Expectations

def time? (claims : Members) (name : Text) (form : ClaimFault) :
    Except ClaimFault (Option Int) :=
  match claims.get? name with
  | none => .ok none
  | some v =>
    match v.toInteger with
    | .ok n => .ok (some n)
    | .error .wrongType => .error (.defect .wrongType)
    | .error .infinite => .error (.defect .tooLarge)
    | .error _ => .error form

def checkIssuedAt (claims : Members) : Except ClaimFault Unit :=
  (time? claims "iat" .issuedAtForm).map fun _ ↦ ()

/-- A time that must not be out of bounds if it is there. -/
def checkTime (claims : Members) (name : Text) (form fault : ClaimFault) (isOut : Int → Bool) :
    Except ClaimFault Unit :=
  match time? claims name form with
  | .error fault => .error fault
  | .ok none => .ok ()
  | .ok (some time) => if isOut time then .error fault else .ok ()

def checkNotBefore (e : Expectations) (now : Int) (claims : Members) : Except ClaimFault Unit :=
  checkTime claims "nbf" .notBeforeForm .notYetValid fun time ↦ now + e.leeway < time

def checkExpiry (e : Expectations) (now : Int) (claims : Members) : Except ClaimFault Unit :=
  checkTime claims "exp" .expiryForm .expired fun time ↦ time < now - e.leeway

/-- The audiences a claim names, if it has the form of one. -/
def audiences? : Json → Option (List Text)
  | .str s => some [s]
  | .arr items => items.mapM Json.str?
  | _ => none

def checkAudience (e : Expectations) (claims : Members) : Except ClaimFault Unit :=
  match e.audience, claims.get? "aud" with
  | some audience, some v =>
    match audiences? v with
    | none => .error .audienceForm
    | some names => if names.contains audience then .ok () else .error .audience
  | _, _ => .ok ()

def checkIssuer (e : Expectations) (claims : Members) : Except ClaimFault Unit :=
  match e.issuer with
  | none => .ok ()
  | some issuer => if (claims.get "iss").same (.str issuer) then .ok () else .error .issuer

/-- A claim that must be a text if it is there. -/
def checkText (claims : Members) (name : Text) (form : ClaimFault) : Except ClaimFault Unit :=
  match claims.get? name with
  | none => .ok ()
  | some (.str _) => .ok ()
  | some _ => .error form

/-- Asks one claim after the other. -/
def check (e : Expectations) (now : Int) (claims : Members) : Except ClaimFault Unit := do
  checkIssuedAt claims
  e.checkNotBefore now claims
  e.checkExpiry now claims
  e.checkAudience claims
  e.checkIssuer claims
  checkText claims "sub" .subjectForm
  checkText claims "jti" .tokenIdForm

end Expectations

end SessionGate
