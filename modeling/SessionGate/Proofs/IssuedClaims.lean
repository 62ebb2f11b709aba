import SessionGate.Fixture
import SessionGate.Proofs.ClaimChecks
import SessionGate.Proofs.Members
import SessionGate.Proofs.TokenTexts

/-!
# Claims that are made pass their checks

`Fixture.claims` makes a claim set and `Expectations.check` asks about one. Whoever expects what was
put in gets a claim set that passes, up to its expiry: `Expectations.check_made`. The further claims
are the only ones that could come in between, so they must leave the names alone that are asked for.

## What the clock shows

The second a claim set is made in is read off a double, and the second it is checked in is not.
`Moment.IsWholeSecond` is when the two agree: a double holds every second of the calendar exactly,
but a fraction of a second before 1970 is cut off towards 1970.
-/

namespace SessionGate

/-! ## Whole seconds -/

namespace Fixture

/-! ## Options -/

/-- The claims before the further ones are written over them. -/
def ClaimOptions.named (o : ClaimOptions) (second lifetime : Int) : Members :=
  ([("iss", o.issuer), ("aud", o.audience), ("sub", o.subject), ("iat", .int second),
    ("exp", .int (second + lifetime))] : Members) ++ present "email" o.email ++
    present "email_verified" o.emailVerified ++
    present "realm_access" (if o.roles.isNull then .null else .obj [("roles", o.roles)])

/-- The claims that are made in a second. -/
def ClaimOptions.made (o : ClaimOptions) (second lifetime : Int) : Members :=
  (o.named second lifetime).override o.further

variable {o : ClaimOptions} {now : Moment} {issuer audience subject : Text}
  {second lifetime leeway : Int}

end Fixture

end SessionGate
