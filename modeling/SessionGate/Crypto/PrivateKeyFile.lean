import SessionGate.Crypto.Der
import SessionGate.Crypto.KeyBlock
import SessionGate.Crypto.KeyPair

/-!
# Private keys in files

The key in a key file is that of the first block that holds a private key. An RSA key is a sequence
of nine numbers: a version, the public key and the secret numbers of the pair. A block that does not
name the algorithm holds that sequence inside another one that does.
-/

namespace SessionGate.Rsa

open Text

/-! ## Sequences -/

/-- The key pair in the sequence of its numbers; the version in front of them is zero. -/
def KeyPair.ofNumbers? (bs : Bytes) : Option KeyPair := do
  match ← (← Der.readSequence? bs).mapM Der.Element.natural? with
  | [0, modulus, exponent, secret, p, q, dp, dq, qi] =>
    return { key := ⟨modulus, exponent⟩, secret, p, q, dp, dq, qi }
  | _ => none

def algorithmIdentifier : Der.Element :=
  ⟨Der.identifierTag, [42, 134, 72, 134, 247, 13, 1, 1, 1]⟩

/-- Whether an element names the algorithm, with no parameters. -/
def namesAlgorithm (element : Der.Element) : Bool :=
  element.tag == Der.sequenceTag &&
    match Der.readAll? element.content with
    | some [identifier] => identifier == algorithmIdentifier
    | some [identifier, parameters] =>
      identifier == algorithmIdentifier && parameters == ⟨Der.nullTag, []⟩
    | _ => false

/-- The tag of the attributes that may follow a key. -/
def attributesTag : UInt8 := 0xa0

/-- The key pair in a sequence that names its algorithm. -/
def KeyPair.ofNamed? (bs : Bytes) : Option KeyPair := do
  match ← Der.readSequence? bs with
  | version :: algorithm :: octets :: attributes =>
    if version.natural? = some 0 ∧ namesAlgorithm algorithm ∧ octets.tag = Der.octetsTag ∧
        attributes.length ≤ 1 ∧ attributes.all (·.tag = attributesTag) then
      KeyPair.ofNumbers? octets.content
    else none
  | _ => none

/-! ## Blocks -/

/-- The names of the blocks that hold private keys. -/
def privateNames : List String :=
  ["PRIVATE KEY", "ENCRYPTED PRIVATE KEY", "RSA PRIVATE KEY", "EC PRIVATE KEY", "DSA PRIVATE KEY"]

/-- The names of the blocks that hold public keys. -/
def publicNames : List String :=
  ["PUBLIC KEY", "RSA PUBLIC KEY"]

/-- A line before the content that says how the content has been processed. -/
def isProcessed (block : KeyBlock.Block) : Bool :=
  block.headers.any fun line ↦ trimChars (line.takeWhile (· ≠ ':')) == "Proc-Type".toList

def KeyPair.ofBlock? (block : KeyBlock.Block) : Option KeyPair :=
  if isProcessed block then none
  else if block.name = "PRIVATE KEY".toList then ofNamed? block.content
  else if block.name = "RSA PRIVATE KEY".toList then ofNumbers? block.content
  else none

/-- The key in the text of a key file. A file that begins with a public key is taken for one. -/
def PrivateKey.ofFile? (text : String) : Option PrivateKey := do
  let blocks ← KeyBlock.ofText? text
  let isNamed (names : List String) (block : KeyBlock.Block) : Bool :=
    names.contains (String.ofList block.name)
  if blocks.head?.any (isNamed publicNames) then none
  else
    let pair ← KeyPair.ofBlock? (← blocks.find? (isNamed privateNames))
    if pair.isSound then some pair.privateKey else none

end SessionGate.Rsa
