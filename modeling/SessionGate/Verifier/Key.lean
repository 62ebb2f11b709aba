import SessionGate.Base64
import SessionGate.Crypto.Sha2
import SessionGate.Crypto.KeyPair
import SessionGate.Failure
import SessionGate.Verifier.KeyText

/-!
# Keys and the algorithms they serve

A key document is a list of entries, and an entry is usually one key: an object whose type is named
by its member `kty`. An entry with a member `keys` is a set of keys, and one that is neither is a
table whose values are keys. `candidates` says which values an entry stands for, and
`VerificationKey.ofJson` makes a key of a value for an algorithm.

## Which faults are answered

A value of the wrong type of key is refused. A key whose numbers cannot be read is a defect: nothing
is answered for it.
-/

namespace SessionGate

open Text

/-! ## Algorithms -/

inductive SigningAlgorithm where
  /-- A keyed digest. -/
  | hmac (h : Hash)
  /-- A signature with RSA. -/
  | rsa (h : Hash)
  /-- Encryption with RSA: it takes the same keys, but signs nothing. -/
  | rsaEncryption
  /-- A key that is used as it is: it takes secrets, but signs nothing. -/
  | direct
  /-- A signature on a curve. -/
  | curve
  /-- Encryption with a key of so many bytes; it signs nothing. -/
  | cipher (name : String) (keySize : Nat)
  deriving DecidableEq, Repr

namespace SigningAlgorithm

def curveNames : List String :=
  ["ES256", "ES384", "ES512", "ECDH-ES", "ECDH-ES+A128KW", "ECDH-ES+A192KW", "ECDH-ES+A256KW"]

/-- The bytes in the keys of ciphers. -/
def cipherKeySizes : List (String × Nat) :=
  [("A128GCM", 16), ("A192GCM", 24), ("A256GCM", 32), ("A128CBC", 16), ("A192CBC", 24),
    ("A256CBC", 32), ("A128KW", 16), ("A192KW", 24), ("A256KW", 32), ("A128CBC-HS256", 32),
    ("A192CBC-HS384", 48), ("A256CBC-HS512", 64)]

def ofName? : String → Option SigningAlgorithm
  | "HS256" => some (hmac .sha256)
  | "HS384" => some (hmac .sha384)
  | "HS512" => some (hmac .sha512)
  | "RS256" => some (rsa .sha256)
  | "RS384" => some (rsa .sha384)
  | "RS512" => some (rsa .sha512)
  | "RSA1_5" => some rsaEncryption
  | "RSA-OAEP" => some rsaEncryption
  | "RSA-OAEP-256" => some rsaEncryption
  | "dir" => some direct
  | name =>
    if curveNames.contains name then some curve
    else (cipherKeySizes.lookup name).map (cipher name)

end SigningAlgorithm

/-! ## Keys -/

/-- The number of characters, items or members. -/
def Json.size? : Json → Option Nat
  | .str s => some s.points.length
  | .arr items => some items.length
  | .obj ms => some ms.length
  | _ => none

inductive KeyFault where
  | algorithm
  | keyType (expected : String) (received : Json)
  | secretForm
  | asymmetricSecret
  /-- A value that is no text and no object, with what was looked for in it. -/
  | unreadable (expected : String) (value : Json)
  /-- A text without a key in it. -/
  | unreadableText
  /-- A key on a curve lacks a number or the name of its curve. -/
  | incompletePoint
  | keySize (name : String) (size : Nat)
  /-- Some of the numbers a secret exponent is split into are there, but not all of them. -/
  | incompleteSecret
  | defect (defect : Defect)
  deriving Repr

inductive VerificationKey where
  | secret (bytes : Bytes)
  | rsa (key : Rsa.PublicKey)
  /-- A key that no signature is checked with. -/
  | idle
  deriving Repr

namespace KeyFault

def message : KeyFault → Text
  | algorithm => "Unable to find an algorithm for key"
  | keyType expected received =>
    s!"Incorrect key type. Expected: '{expected}', Received: " ++ received.display
  | secretForm => "Expecting a string- or bytes-formatted key."
  | asymmetricSecret =>
    .plain ("The specified key is an asymmetric key or x509 certificate and should not be used as "
      ++ "an HMAC secret.")
  | unreadable expected value => s!"Unable to parse an {expected} from key: " ++ value.display
  | unreadableText => "Unable to load PEM file."
  | incompletePoint => "Mandatory parameters are missing"
  | keySize name size => .plain s!"Key must be {8 * size} bit for alg {name}"
  | incompleteSecret => "Precomputed private key parameters are incomplete."
  | defect _ => ""

end KeyFault

namespace VerificationKey

/-- The bytes of a list of numbers. -/
def bytesOfItems : List Json → Except Defect Bytes
  | [] => .ok []
  | v :: vs =>
    match v with
    | .float _ => .error .wrongType
    | v =>
      match v.worth? with
      | none => .error .wrongType
      | some n =>
        if 0 ≤ n ∧ n < 256 then (bytesOfItems vs).map (n.toNat.toUInt8 :: ·)
        else .error .badKeyNumber

/-- The letters of a number in a key. A count stands for so many bytes that are no letters. -/
def numberLetters : Json → Except Defect Bytes
  | .str (.plain s) => if s.toList.all (·.toNat < 128) then .ok (utf8 s) else .error .notAscii
  | .str (.loose _) => .error .notAscii
  | .bool _ => .ok []
  | .int n =>
    if n < 0 then .error .badKeyNumber
    else if n < Nat.pow 2 63 then .ok []
    else .error .tooLarge
  | .arr items => bytesOfItems items
  | .obj [] => .ok []
  | _ => .error .wrongType

/-- A number in a key. Its letters stand for at least one byte. -/
def number (v : Json) : Except Defect Nat :=
  match numberLetters v with
  | .error fault => .error fault
  | .ok letters =>
    match Base64.decode? (letters ++ [Base64.pad, Base64.pad]) with
    | none => .error .notBase64
    | some [] => .error .badKeyNumber
    | some bytes => .ok (Base64.toNumber bytes)

/-- The exponent that a key without one is read with: so many bytes that are no letters. -/
def noExponent : Json := .int 256

/-- A number that is a member of a key. -/
def numberMember (ms : Members) (name : Text) (default : Json := .null) : Except KeyFault Nat :=
  (number ((ms.get? name).getD default)).mapError .defect

/-- The numbers a secret exponent may be split into. -/
def splitNames : List Text := ["p", "q", "dp", "dq", "qi"]

/-- The secret numbers of a key that has them: the secret exponent, and what it is split into, which
may be left out as a whole. -/
def secretNumbers (ms : Members) : Except KeyFault (Option (Nat × List Nat)) :=
  if !ms.has "d" then .ok none
  else do
    let secret ← numberMember ms "d"
    let names := splitNames.filter ms.has
    if names = [] ∨ names = splitNames then
      return some (secret, ← names.mapM (numberMember ms ·))
    else .error .incompleteSecret

/-- The key pair of a public key and secret numbers. -/
def pairOf? (key : Rsa.PublicKey) (secret : Nat) : List Nat → Option Rsa.KeyPair
  | [p, q, dp, dq, qi] => some { key, secret, p, q, dp, dq, qi }
  | _ => Rsa.KeyPair.ofSecret? key secret

/-- Whether the numbers of a key are within their bounds and fit together. The secret ones play no
part in checking a signature. -/
def areSound (key : Rsa.PublicKey) (secret : Option (Nat × List Nat)) : Bool :=
  key.isValid && secret.all fun (d, split) ↦
    d < key.modulus && (pairOf? key d split).any (·.isSound)

/-- The RSA key in an object. -/
def rsaOfMembers (ms : Members) : Except KeyFault Rsa.PublicKey :=
  let kind := ms.get "kty"
  if kind.same (.str "RSA") then do
    let exponent ← numberMember ms "e" noExponent
    let modulus ← numberMember ms "n"
    let key : Rsa.PublicKey := ⟨modulus, exponent⟩
    if areSound key (← secretNumbers ms) then .ok key else .error (.defect .badKeyNumber)
  else .error (.keyType "RSA" kind)

/-- The secret in an object. -/
def secretOfMembers (ms : Members) : Except KeyFault Bytes :=
  let kind := ms.get "kty"
  if kind.same (.str "oct") then
    match ms.get "k" with
    | .str (.plain k) =>
      match Base64.decodeSegment? (utf8 k) with
      | some bytes => .ok bytes
      | none => .error (.defect .notBase64)
    | .str (.loose _) => .error (.defect .notUnicode)
    | _ => .error (.defect .unsupported)
  else .error (.keyType "oct" kind)

/-- The secret a text is. A text that holds a key of a pair is refused: what is published must not
serve as a secret. -/
def secretOfText (s : String) : Except KeyFault Bytes :=
  if KeyText.holdsPairKey s.toList then .error .asymmetricSecret else .ok (utf8 s)

/-- The key that a text is for an algorithm. A text is looked at as bytes, and only the size of the
key of a cipher is its own. -/
def ofText (algorithm : SigningAlgorithm) (s : String) : Except KeyFault VerificationKey :=
  match algorithm with
  | .hmac _ => (secretOfText s).map secret
  | .direct => .ok idle
  | _ => .error .unreadableText

/-- The key on a curve in an object. Signatures on curves are not checked, so nothing is kept of
it. -/
def curveOfMembers (ms : Members) : Except KeyFault VerificationKey :=
  let kind := ms.get "kty"
  if !kind.same (.str "EC") then .error (.keyType "EC" kind)
  else if ["x", "y", "crv"].all fun name : String ↦ ms.has name then .ok idle
  else .error .incompletePoint

/-- The key of a cipher, of which only the size matters. -/
def cipherOfJson (name : String) (keySize : Nat) (v : Json) : Except KeyFault VerificationKey :=
  match v.size? with
  | none => .error (.defect .wrongType)
  | some size => if size = keySize then .ok idle else .error (.keySize name keySize)

/-- The key a value is for an algorithm. -/
def ofJson (algorithm : SigningAlgorithm) (v : Json) : Except KeyFault VerificationKey :=
  match algorithm, v with
  | .cipher name keySize, v => cipherOfJson name keySize v
  | a, .str (.plain s) => ofText a s
  | _, .str (.loose _) => .error (.defect .notUnicode)
  | .hmac _, .obj ms => (secretOfMembers ms).map secret
  | .hmac _, _ => .error .secretForm
  | .direct, _ => .error (.defect .wrongType)
  | .curve, .obj ms => curveOfMembers ms
  | .curve, v => .error (.unreadable "ECKey" v)
  | _, .obj ms => (rsaOfMembers ms).map rsa
  | _, v => .error (.unreadable "RSA_JWK" v)

/-- Whether the signature is one of the message under the algorithm. -/
def accepts (key : VerificationKey) (algorithm : SigningAlgorithm) (message signature : Bytes) :
    Bool :=
  match algorithm, key with
  | .hmac h, secret bytes => h.hmac bytes message = signature
  | .rsa h, rsa key => Rsa.verify key h message signature
  | _, _ => false

end VerificationKey

/-! ## Entries -/

/-- What a value holds when it is run through as a list: the items of a list, the names of an object
and the characters of a text. -/
def Json.elements? : Json → Option (List Json)
  | .arr items => some items
  | .obj ms => some ((Members.names ms).map .str)
  | .str s => some (s.points.map fun p ↦ .str (.ofPoints [p]))
  | _ => none

namespace KeyEntry

/-- The values an entry stands for. -/
def candidates (entry : Members) : Except Defect (List Json) :=
  match entry.get? "keys" with
  | some v =>
    match v.elements? with
    | some items => .ok items
    | none => .error .wrongType
  | none =>
    if entry.has "kty" || entry.isEmpty then .ok [.obj entry] else .ok (entry.map Prod.snd)

/-- Whether one of the values is a key that accepts the signature. A value that is no key ends the
search, so it matters only before the first key that accepts. -/
def anyAccepts (algorithm : Option SigningAlgorithm) (message signature : Bytes) :
    List Json → Except KeyFault Bool
  | [] => .ok false
  | v :: vs =>
    match algorithm with
    | none => .error .algorithm
    | some a =>
      match VerificationKey.ofJson a v with
      | .error fault => .error fault
      | .ok key =>
        if key.accepts a message signature then .ok true
        else anyAccepts algorithm message signature vs

end KeyEntry

abbrev KeySet := Members

namespace KeySet

/-- The entries of a document that are objects. -/
def entries (keys : KeySet) : Except Defect (List Members) :=
  match keys.get? "keys" with
  | none => .ok []
  | some v =>
    match v.elements? with
    | some items => .ok (items.filterMap Json.obj?)
    | none => .error .wrongType

end KeySet

end SessionGate
