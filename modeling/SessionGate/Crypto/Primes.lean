/-!
# Powers and primes

`powMod` raises to a power modulo a number. On it rest the test for primes and the search for the
factors of a number, and both look at the same thing: the squares that lead from the power for the
odd part of an exponent to the power for the exponent itself.

## Bases

`isPrime` tries the bases of `smallPrimes` one after the other. A prime passes for each of them, and
no composite number is known that does. `factor?` tries more bases, since for half of them there is
nothing to be found.
-/

namespace SessionGate.Primes

/-! ## Powers -/

/-- Square and multiply over the last `bits` binary digits of the exponent. -/
def powBits (n : Nat) : Nat → Nat → Nat → Nat
  | 0, _, _ => 1 % n
  | bits + 1, b, e =>
    let rest := powBits n bits (b * b % n) (e / 2)
    if e % 2 = 1 then b * rest % n else rest

/-- `b ^ e % n`. -/
def powMod (b e n : Nat) : Nat :=
  powBits n (e.log2 + 1) (b % n) e

/-- The odd part of a number, and how often two divides the number; zero has no odd part. -/
def splitTwos (n : Nat) : Nat × Nat :=
  if n = 0 ∨ n % 2 = 1 then (n, 0)
  else
    let (odd, twos) := splitTwos (n / 2)
    (odd, twos + 1)
termination_by n
decreasing_by omega

/-- So many numbers, the first one `x` and each further one the square of the one before it. -/
def squares (n x : Nat) : Nat → List Nat
  | 0 => []
  | count + 1 => x :: squares n (x * x % n) count

/-- The powers of `b` from the one for the odd part of `e` on, without the one for `e` itself. -/
def squaresTo (b e n : Nat) : List Nat :=
  let (odd, twos) := splitTwos e
  squares n (powMod b odd n) twos

/-! ## Primes -/

def smallPrimes : List Nat :=
  [2, 3, 5, 7, 11, 13, 17, 19, 23, 29, 31, 37, 41, 43, 47, 53, 59, 61, 67, 71]

/-- Whether `n` is prime as far as the base `b` can tell: the squares begin with one or come by
minus one. -/
def passes (n b : Nat) : Bool :=
  let powers := squaresTo b (n - 1) n
  powers.head? == some 1 || powers.contains (n - 1)

/-- Whether a number is prime: it is a small prime, or no small prime divides it and it passes for
all of them. -/
def isPrime (n : Nat) : Bool :=
  smallPrimes.contains n || (1 < n && smallPrimes.all fun b ↦ n % b != 0 && passes n b)

/-! ## Factors -/

/-- The bases that are tried to find a factor. -/
def factorBases : List Nat :=
  (List.range 64).map (· + 2)

/-- A factor of `n`, where `e` is an exponent that takes every base to one: a square root of one
that is neither one nor minus one has a neighbour that shares it with `n`. -/
def factor? (n e : Nat) : Option Nat :=
  let isRoot (x : Nat) : Bool := x != 1 && x != n - 1 && x * x % n == 1
  factorBases.findSome? fun b ↦
    ((squaresTo b e n).find? isRoot).map fun x ↦ Nat.gcd (x + 1) n

end SessionGate.Primes
