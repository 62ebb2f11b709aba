/-!
# Double-precision numbers as dyadic rationals

A finite double is `± m · 2 ^ e` with a natural mantissa, so every operation of this file is exact
integer arithmetic followed by one rounding. Nothing here uses the hardware type: what a number
is worth, which integer it truncates to and whether it equals an integer are all decided on the
mantissa and the exponent.

## Canonical form

`Binary64.ofRatio` is the only rounding, and it returns the canonical representation: the
mantissa fills 53 bits unless the exponent is already the least one. Two finite doubles made by
this file are therefore worth the same only if they are the same up to the sign of zero.
-/

namespace SessionGate

/-- A double-precision number: finite `± mantissa · 2 ^ exponent`, an infinity, or no number. -/
inductive Binary64 where
  | nan
  | infinite (negative : Bool)
  | finite (negative : Bool) (mantissa : Nat) (exponent : Int)
  deriving DecidableEq, Repr, Inhabited

namespace Binary64

/-- The least exponent of a double; subnormal numbers have it. -/
def minExponent : Int := -1074

/-- The largest exponent of a finite double in canonical form. -/
def maxExponent : Int := 971

def zero : Binary64 := .finite false 0 minExponent

/-! ## Rounding -/

/-- `num / den` rounded to the nearest natural number, a half going to the even neighbour. -/
def roundDiv (num den : Nat) : Nat :=
  let q := num / den
  let r := num % den
  if 2 * r < den then q
  else if den < 2 * r then q + 1
  else if q % 2 = 0 then q else q + 1

/-- The fraction `num / den / 2 ^ e` as a numerator and a denominator. -/
def scale (num den : Nat) (e : Int) : Nat × Nat :=
  if 0 ≤ e then (num, den <<< e.toNat) else (num <<< (-e).toNat, den)

/-- The exponent at which `num / den` has a mantissa of 53 bits, or the least exponent. -/
def targetExponent (num den : Nat) : Int :=
  let guess : Int := (num.log2 : Int) - den.log2 - 52
  let (n, d) := scale num den guess
  max minExponent (if n / d < Nat.pow 2 52 then guess - 1 else guess)

/-- The double nearest to `± num / den`, a tie going to the even mantissa; past the largest double
the result is infinite. -/
def ofRatio (negative : Bool) (num den : Nat) : Binary64 :=
  if num = 0 then .finite negative 0 minExponent
  else
    let e := targetExponent num den
    let (n, d) := scale num den e
    let m := roundDiv n d
    let (m, e) := if m = Nat.pow 2 53 then (Nat.pow 2 52, e + 1) else (m, e)
    if maxExponent < e then .infinite negative else .finite negative m e

def ofNat (n : Nat) : Binary64 := ofRatio false n 1

def ofInt (n : Int) : Binary64 := ofRatio (n < 0) n.natAbs 1

/-- The double nearest to `± digits · 10 ^ exponent`. Exponents so far out that the result is zero
or infinite whatever the digits are cut off before any power is computed. -/
def ofDecimal (negative : Bool) (digits : Nat) (exponent : Int) : Binary64 :=
  let magnitude : Int := (Nat.toDigits 10 digits).length + exponent
  if digits = 0 then .finite negative 0 minExponent
  else if magnitude < -400 then .finite negative 0 minExponent
  else if 400 < magnitude then .infinite negative
  else if 0 ≤ exponent then ofRatio negative (digits * Nat.pow 10 exponent.toNat) 1
  else ofRatio negative digits (Nat.pow 10 (-exponent).toNat)

/-! ## What a number is worth -/

def isFinite : Binary64 → Bool
  | .finite .. => true
  | _ => false

def isZero : Binary64 → Bool
  | .finite _ m _ => m == 0
  | _ => false

/-- The signed mantissa of a finite double. -/
def signed (negative : Bool) (mantissa : Nat) : Int :=
  if negative then -(mantissa : Int) else mantissa

/-- The value as an exact fraction with a positive denominator. -/
def toRatio? : Binary64 → Option (Int × Nat)
  | .finite s m e =>
    some (if 0 ≤ e then (signed s (m <<< e.toNat), 1) else (signed s m, 1 <<< (-e).toNat))
  | _ => none

/-- The integer part, toward zero. -/
def truncate? (x : Binary64) : Option Int :=
  x.toRatio?.map fun (n, d) ↦ Int.tdiv n d

/-- The value, if it is a whole number. -/
def toInt? (x : Binary64) : Option Int :=
  x.toRatio?.bind fun (n, d) ↦ if Int.tmod n d = 0 then some (Int.tdiv n d) else none

/-- `x < y` on the extended number line; `false` where either side is no number. -/
def lt : Binary64 → Binary64 → Bool
  | .nan, _ => false
  | _, .nan => false
  | .infinite s, .infinite t => s && !t
  | .infinite s, .finite .. => s
  | .finite .., .infinite t => !t
  | x@(.finite ..), y@(.finite ..) =>
    match x.toRatio?, y.toRatio? with
    | some (a, b), some (c, d) => a * d < c * b
    | _, _ => false

/-- Numerical equality: the zeros are equal and no number equals nothing. -/
def same (x y : Binary64) : Bool :=
  match x, y with
  | .nan, _ => false
  | _, .nan => false
  | x, y => !x.lt y && !y.lt x

def le (x y : Binary64) : Bool := x.lt y || x.same y

def add : Binary64 → Binary64 → Binary64
  | .nan, _ => .nan
  | _, .nan => .nan
  | .infinite s, .infinite t => if s = t then .infinite s else .nan
  | .infinite s, .finite .. => .infinite s
  | .finite .., .infinite t => .infinite t
  | .finite s m e, .finite t k f =>
    let low := min e f
    let sum := signed s (m <<< (e - low).toNat) + signed t (k <<< (f - low).toNat)
    if sum = 0 then .finite (s && t) 0 minExponent
    else if 0 ≤ low then ofRatio (sum < 0) (sum.natAbs <<< low.toNat) 1
    else ofRatio (sum < 0) sum.natAbs (1 <<< (-low).toNat)

/-- Whether the sign is a minus, that of a zero included. -/
def isNegative : Binary64 → Bool
  | .nan => false
  | .infinite s => s
  | .finite s _ _ => s

/-- The distance from zero. -/
def abs : Binary64 → Binary64
  | .nan => .nan
  | .infinite _ => .infinite false
  | .finite _ m e => .finite false m e

/-- The largest integer that is not above the number. -/
def floor? (x : Binary64) : Option Int :=
  x.toRatio?.map fun (n, d) ↦ n / (d : Int)

/-- The rounded distance to the integer below. -/
def fraction (x : Binary64) : Binary64 :=
  match x.toRatio? with
  | some (n, d) => ofRatio false (n % (d : Int)).toNat d
  | none => .nan

def timesNat (x : Binary64) (k : Nat) : Binary64 :=
  match x.toRatio? with
  | some (n, d) => ofRatio x.isNegative (n.natAbs * k) d
  | none => x

/-- The rounded quotient by a natural number that is not zero. -/
def overNat (x : Binary64) (k : Nat) : Binary64 :=
  match x.toRatio? with
  | some (n, d) => ofRatio x.isNegative n.natAbs (d * k)
  | none => x

end Binary64

end SessionGate
