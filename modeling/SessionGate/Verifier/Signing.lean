import SessionGate.Crypto.PrivateKeyFile
import SessionGate.Failure
import SessionGate.Json.Printer

/-!
# Signing tokens

The counterpart of `SignedToken.ofJson?`: header and payload are written without blanks, as
segments of base64, and the signature of both is the third segment.
-/

namespace SessionGate

open Text

/-- A private key, the identifier it is known by, and the entry that publishes its public part. -/
structure SigningKey where
  id : Json
  /-- The text of the file that holds the private key. -/
  file : String
  publicEntry : Members := []

namespace SigningKey

def document (key : SigningKey) : Json :=
  .obj [("keys", .arr [.obj key.publicEntry])]

def header (key : SigningKey) : Members :=
  [("alg", .str "RS256"), ("kid", key.id), ("typ", .str "JWT")]

def segment (v : Json) : Bytes :=
  Base64.encode ((v.print .compact).flatMap charBytes)

def signedPart (key : SigningKey) (claims : Members) : Bytes :=
  segment (.obj key.header) ++ 46 :: segment (.obj claims)

/-- What becomes of a header that has no text. -/
def headerDefect : Json.TextFault → Defect
  | .tooLong => .unwritable
  | .tooDeep => .badDocument .tooDeep

/-- What becomes of claims that have no text. With an integer that is too long they are taken for
the bytes of one, which they are not. -/
def claimsDefect : Json.TextFault → Defect
  | .tooLong => .wrongType
  | .tooDeep => .badDocument .tooDeep

/-- The text of a token that makes these claims. Header and claims are written with the room that
they are read with. -/
def token (key : SigningKey) (claims : Members) : Except Defect String :=
  match (Json.obj key.header).textFault? Json.depthLimit,
    (Json.obj claims).textFault? Json.depthLimit with
  | some fault, _ => .error (headerDefect fault)
  | none, some fault => .error (claimsDefect fault)
  | none, none =>
    let message := key.signedPart claims
    match (Rsa.PrivateKey.ofFile? key.file).bind fun k ↦ Rsa.sign? k .sha256 message with
    | some signature =>
      let bytes := message ++ 46 :: Base64.encode signature
      .ok (String.ofList (bytes.map fun b ↦ Char.ofNat b.toNat))
    | none => .error .unsignable

end SigningKey

end SessionGate
