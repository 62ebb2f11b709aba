import SessionGate.Log
import SessionGate.Text.Parts
import SessionGate.Verifier.Claims
import SessionGate.Verifier.Key
import SessionGate.Verifier.Token

/-!
# Verifying identity tokens

A verifier has a source of keys, the algorithms it admits and the expectations it has of claims.
`Verifier.signedClaims` takes a token apart, loads the keys, selects the key that the header names,
checks the signature and reads the claims; no clock plays a part in it. `Verifier.check` decides
about a token: the claims that are signed have to be as expected in the second in which it is asked.
What is reported and logged is derived from the fault that is returned.
-/

namespace SessionGate

open Text

/-- Where keys come from: a document, or a failure with a message of its own. -/
inductive KeySource where
  | document (keys : Json)
  | failing (message : Text)
  deriving Repr

inductive VerificationFault where
  | empty
  | malformed
  | sourceFailed (message : Text)
  | noDocument
  | noKeyId
  | unknownKey (kid : Json)
  | noAlgorithm
  | algorithmRefused
  | badKey (fault : KeyFault)
  | badSignature
  | unreadablePayload (fault : DocumentFault)
  | payloadForm
  | claim (fault : ClaimFault)
  | defect (defect : Defect)
  deriving Repr

namespace VerificationFault

def message : VerificationFault → Text
  | empty => "empty token"
  | malformed => "malformed token: Error decoding token headers."
  | sourceFailed message => "unable to load signing keys: " ++ message
  | noDocument => "key source did not return a JWKS document"
  | noKeyId => "token header missing key id (kid)"
  | unknownKey kid => "signing key not found: " ++ kid.display
  | noAlgorithm => "No algorithm was specified in the JWS header."
  | algorithmRefused => "The specified alg value is not allowed"
  | badKey fault => fault.message
  | badSignature => "Signature verification failed."
  | unreadablePayload fault => .plain s!"Invalid payload string: {fault.message}"
  | payloadForm => "Invalid payload string: must be a json object"
  | claim fault => fault.message
  | defect _ => ""

def cause? : VerificationFault → Option Cause
  | malformed => some (.token .token)
  | sourceFailed _ => some .keySource
  | noAlgorithm => some (.token .token)
  | algorithmRefused => some (.token .token)
  | badKey _ => some (.token .key)
  | badSignature => some (.token .token)
  | unreadablePayload _ => some (.token .token)
  | payloadForm => some (.token .token)
  | claim .expired => some (.token .expired)
  | claim _ => some (.token .claims)
  | _ => none

def details : VerificationFault → Members
  | unknownKey kid => [("kid", kid)]
  | _ => []

def toError (fault : VerificationFault) : AccessError where
  kind := .tokenVerification
  message := .str fault.message
  details := .obj fault.details
  cause := fault.cause?

/-- The failure of the operation: some faults are defects. -/
def toFailure : VerificationFault → Failure
  | defect d => .defect d
  | badKey (.defect d) => .defect d
  | claim (.defect d) => .defect d
  | fault => .refused fault.toError

/-- Whether the fault was found after the key had been selected. -/
def isLate : VerificationFault → Bool
  | noAlgorithm => true
  | algorithmRefused => true
  | badKey (.defect _) => false
  | badKey _ => true
  | badSignature => true
  | unreadablePayload _ => true
  | payloadForm => true
  | claim (.defect _) => false
  | claim _ => true
  | _ => false

def logger : String := "auth.verifier"

def entries (fault : VerificationFault) : List LogEntry :=
  match fault with
  | sourceFailed message =>
    [⟨logger, .error, .str "Key source failed", [("error", .str message)]⟩]
  | fault =>
    if fault.isLate then
      [⟨logger, .debug, .str "Token verification failed", [("error", .str fault.message)]⟩]
    else []

end VerificationFault

structure Verifier where
  keys : KeySource
  expectations : Expectations
  algorithms : List Text := ["RS256"]
  deriving Repr

namespace Verifier

def loadKeys (v : Verifier) : Except VerificationFault KeySet :=
  match v.keys with
  | .failing message => .error (.sourceFailed message)
  | .document (.obj ms) => .ok ms
  | .document _ => .error .noDocument

/-- The entry for a key identifier: the first that has it, or, where the header names none, the
only entry there is. -/
def selectKey (keys : KeySet) (kid : Json) : Except VerificationFault Members :=
  match keys.entries with
  | .error fault => .error (.defect fault)
  | .ok entries =>
    if kid.isNull then
      match entries with
      | [entry] => .ok entry
      | _ => .error .noKeyId
    else
      match entries.find? fun entry ↦ (Members.get entry "kid").same kid with
      | some entry => .ok entry
      | none => .error (.unknownKey kid)

/-- The algorithm of a token, which must be admitted; `none` stands for one that is admitted but
not known. -/
def admitted (v : Verifier) (header : Members) :
    Except VerificationFault (Option SigningAlgorithm) :=
  let alg := header.get "alg"
  if !alg.isSet then .error .noAlgorithm
  else
    match alg with
    | .str name =>
      if v.algorithms.contains name then .ok (name.string?.bind SigningAlgorithm.ofName?)
      else .error .algorithmRefused
    | _ => .error .algorithmRefused

/-- Checks the signature of a token with an entry of the keys. -/
def checkSignature (v : Verifier) (token : SignedToken) (entry : Members) :
    Except VerificationFault Unit := do
  let algorithm ← v.admitted token.header
  match KeyEntry.candidates entry with
  | .error fault => .error (.defect fault)
  | .ok values =>
    match KeyEntry.anyAccepts algorithm token.signed token.signature values with
    | .error fault => .error (.badKey fault)
    | .ok true => .ok ()
    | .ok false => .error .badSignature

def readClaims (token : SignedToken) : Except VerificationFault Members :=
  match Json.ofUtf8 token.payload with
  | .error .tooDeep => .error (.defect (.badDocument .tooDeep))
  | .error fault => .error (.unreadablePayload fault)
  | .ok (.obj claims) => .ok claims
  | .ok _ => .error .payloadForm

/-- The claims of a token that carries a signature with the key it names. -/
def signedClaims (v : Verifier) (raw : Json) : Except VerificationFault Members := do
  if !raw.isSet then .error .empty
  else
    match SignedToken.ofJson? raw with
    | none => .error .malformed
    | some token =>
      let keys ← v.loadKeys
      let entry ← selectKey keys (token.header.get "kid")
      v.checkSignature token entry
      readClaims token

/-- The claims of a token that is accepted in the second `now`. -/
def check (v : Verifier) (now : Int) (raw : Json) : Except VerificationFault Members := do
  let claims ← v.signedClaims raw
  match v.expectations.check now claims with
  | .ok () => .ok claims
  | .error fault => .error (.claim fault)

end Verifier

/-! ## Key documents in files -/

namespace KeyFile

/-- The key document in the bytes of a file: an object with a list of keys. Line ends of every kind
count as line feeds. -/
def ofBytes (path : String) (bs : Text.Bytes) : Except Defect Json :=
  match Text.decodeUtf8 bs with
  | .error fault => .error (.badDocument (.undecodable fault))
  | .ok text =>
    match Json.ofText (CodePoint.ofChars (Text.normalizeLines text)) with
    | .error fault => .error (.badDocument fault)
    | .ok document =>
      match (document.obj?.getD []).get "keys" with
      | .arr _ => .ok document
      | _ => .error (.noKeyDocument path)

def load (files : Files) (path : String) : Except Defect Json :=
  match files.read path with
  | .ok bs => ofBytes path bs
  | .error fault => .error (.noFile fault)

end KeyFile

end SessionGate
