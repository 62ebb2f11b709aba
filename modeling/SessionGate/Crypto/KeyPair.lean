import SessionGate.Crypto.Rsa

/-!
# Key pairs of RSA

A key pair is a public key with its secret exponent, the two prime factors of the modulus, and what
the secret exponent is split into over them. Any one of the secret numbers gives the others, so they
have to fit together: `KeyPair.isSound` says when they do, and `KeyPair.ofSecret?` finds the others
for a secret exponent.
-/

namespace SessionGate.Rsa

open Primes

/-- A key pair: `p` and `q` are the factors of the modulus, `dp` and `dq` the secret exponent over
each of them, and `qi` is the inverse of `q` over `p`. -/
structure KeyPair where
  key : PublicKey
  secret : Nat
  p : Nat
  q : Nat
  dp : Nat
  dq : Nat
  qi : Nat
  deriving DecidableEq, Repr

namespace KeyPair

/-- Whether the factors are two odd primes. -/
def hasPrimes (k : KeyPair) : Bool :=
  k.p * k.q == k.key.modulus && [k.p, k.q].all fun f ↦ f % 2 == 1 && isPrime f

/-- Whether the exponents undo each other. -/
def isInverse (k : KeyPair) : Bool :=
  k.secret * k.key.exponent % Nat.lcm (k.p - 1) (k.q - 1) == 1

/-- Whether the secret exponent is split as it should be. -/
def isSplit (k : KeyPair) : Bool :=
  k.dp == k.secret % (k.p - 1) && k.dq == k.secret % (k.q - 1) && decide (k.qi < k.p) &&
    k.qi * k.q % k.p == 1

/-- Whether the numbers fit together; a public exponent of one undoes itself, but does not count. -/
def isSound (k : KeyPair) : Bool :=
  k.key.exponent != 1 && k.hasPrimes && k.isInverse && k.isSplit

/-- The inverse of `a` over a prime. -/
def inverse (a prime : Nat) : Nat :=
  powMod a (prime - 2) prime

/-- The number that a secret exponent is tried on. -/
def probe : Nat := 17

/-- The key pair of a public key and its secret exponent, `p` being the larger factor. -/
def ofSecret? (key : PublicKey) (secret : Nat) : Option KeyPair :=
  let product := key.exponent * secret
  if 1 < key.exponent ∧ 1 < secret ∧ powMod probe product key.modulus = probe then
    (factor? key.modulus (product - 1)).map fun f ↦
      let p := max f (key.modulus / f)
      let q := key.modulus / p
      { key, secret, p, q, dp := secret % (p - 1), dq := secret % (q - 1), qi := inverse q p }
  else none

def privateKey (k : KeyPair) : PrivateKey :=
  ⟨k.key.modulus, k.secret⟩

end KeyPair

end SessionGate.Rsa
