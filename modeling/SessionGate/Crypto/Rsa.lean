import SessionGate.Crypto.Primes
import SessionGate.Crypto.Sha2

/-!
# Signatures with RSA

A message is signed by raising its encoding to a secret power. The encoding fills the modulus: a
fixed header, a run of ones, the name of the digest and the digest itself. There is one encoding of
each message, so a signature is checked by undoing the power and comparing.

## Limits

A modulus must be odd and have at most 16384 bits, and one of more than 3072 bits goes with
exponents of at most 64 bits. Outside these limits no signature is valid.
-/

namespace SessionGate.Rsa

open Primes Text

/-! ## Keys -/

structure PublicKey where
  modulus : Nat
  exponent : Nat
  deriving DecidableEq, Repr

/-- A private key with its modulus. -/
structure PrivateKey where
  modulus : Nat
  exponent : Nat
  deriving DecidableEq, Repr

def bitLength (n : Nat) : Nat :=
  if n = 0 then 0 else n.log2 + 1

def byteLength (n : Nat) : Nat :=
  (bitLength n + 7) / 8

/-- Whether the numbers make a key at all: the modulus is at least three, and the exponent odd,
at least three and less than the modulus. -/
def PublicKey.isValid (key : PublicKey) : Bool :=
  3 ≤ key.modulus && 3 ≤ key.exponent && key.exponent < key.modulus && key.exponent % 2 == 1

def PublicKey.isUsable (key : PublicKey) : Bool :=
  key.modulus % 2 == 1 && bitLength key.modulus ≤ 16384 &&
    (bitLength key.modulus ≤ 3072 || bitLength key.exponent ≤ 64)

/-! ## Signatures -/

/-- The encoding of a message in `size` bytes; it does not exist where less than eight ones would
fit. -/
def encoded? (h : Hash) (size : Nat) (message : Bytes) : Option Bytes :=
  let body := h.identifier ++ h.digest message
  if body.length + 11 ≤ size then
    some (0 :: 1 :: List.replicate (size - body.length - 3) 0xff ++ 0 :: body)
  else none

def verify (key : PublicKey) (h : Hash) (message signature : Bytes) : Bool :=
  let size := byteLength key.modulus
  match encoded? h size message with
  | none => false
  | some block =>
    let s := Sha2.ofBigEndian signature
    key.isUsable && signature.length == size && decide (s < key.modulus) &&
      powMod s key.exponent key.modulus == Sha2.ofBigEndian block

def sign? (key : PrivateKey) (h : Hash) (message : Bytes) : Option Bytes :=
  let size := byteLength key.modulus
  (encoded? h size message).map fun block ↦
    Sha2.bigEndian size (powMod (Sha2.ofBigEndian block) key.exponent key.modulus)

end SessionGate.Rsa
