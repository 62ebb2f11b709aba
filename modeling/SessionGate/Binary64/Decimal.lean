import SessionGate.Binary64
import SessionGate.Text.Digits

/-!
# The shortest decimal spelling of a double

`Binary64.shortest` gives the fewest decimal digits that read back as the same double, and of
those the nearest to its exact value. The search works on the grid of multiples of a power of
ten: if the grid has a point in the interval of reals that round to the double, then one of the
two neighbours of the exact value on that grid is such a point, so only the two neighbours are
tested.

`DecimalLayout` holds the decisions a format makes about these digits, and `Binary64.toDecimal`
follows it.
-/

namespace SessionGate

/-! ## The digits -/

/-- The reals that round to `mantissa · 2 ^ exponent`, as multiples of `2 ^ (exponent - 2)`: the
lower end, the value itself and the upper end. Below a power of two the lower gap is half as
wide. -/
def Binary64.roundingInterval (mantissa : Nat) (exponent : Int) : Nat × Nat × Nat :=
  let narrow := mantissa = Nat.pow 2 52 ∧ Binary64.minExponent < exponent
  (if narrow then 4 * mantissa - 1 else 4 * mantissa - 2, 4 * mantissa, 4 * mantissa + 2)

/-- The position of the decimal point of `num / den`: the least `p` with `num / den < 10 ^ p`. The
quotient is scaled up until it is at least one, and its digits are counted. -/
def decimalExponent (num den : Nat) : Int :=
  let k := (Nat.toDigits 10 den).length
  ((Nat.toDigits 10 (num * Nat.pow 10 k / den)).length : Int) - k

/-- The fraction `num / den` divided by `10 ^ q`, as a numerator and a denominator. -/
def gridScale (num den : Nat) (q : Int) : Nat × Nat :=
  if 0 ≤ q then (num, den * Nat.pow 10 q.toNat) else (num * Nat.pow 10 (-q).toNat, den)

/-- The neighbour of the value on the grid of multiples of `10 ^ q` that lies in the interval, the
nearer one if both do and the even one at a tie. The three fractions share the denominator. -/
def gridHit? (low value high den : Nat) (closed : Bool) (q : Int) : Option Nat :=
  let (lowN, lowD) := gridScale low den q
  let (n, d) := gridScale value den q
  let (highN, _) := gridScale high den q
  let below := n / d
  let inside (c : Nat) : Bool :=
    if closed then lowN ≤ c * lowD && c * lowD ≤ highN else lowN < c * lowD && c * lowD < highN
  let nearest := Binary64.roundDiv n d
  let other := if nearest = below then below + 1 else below
  if inside nearest then some nearest
  else if inside other then some other
  else none

/-- Searches the grids of 1, 2, … significant digits; `k` digits are on trial and `fuel` grids are
left. -/
def searchGrids (low value high den : Nat) (closed : Bool) (p : Int) : Nat → Nat → Nat × Int
  | 0, k => (value / den, p - k)
  | fuel + 1, k =>
    match gridHit? low value high den closed (p - k) with
    | some c => (c, p - k)
    | none => searchGrids low value high den closed p fuel (k + 1)

/-- The shortest digits `c` and the exponent `q` such that `c · 10 ^ q` reads back as the positive
double `mantissa · 2 ^ exponent`. Seventeen digits always do. -/
def Binary64.shortest (mantissa : Nat) (exponent : Int) : Nat × Int :=
  let (low, value, high) := Binary64.roundingInterval mantissa exponent
  let shift := exponent - 2
  let up := if 0 ≤ shift then shift.toNat else 0
  let den := if 0 ≤ shift then 1 else 1 <<< (-shift).toNat
  searchGrids (low <<< up) (value <<< up) (high <<< up) den (mantissa % 2 == 0)
    (decimalExponent (value <<< up) den) 17 1

/-! ## The layout -/

/-- What a format decides about the digits of a number. -/
structure DecimalLayout where
  /-- Decimal points at or below this position are written with an exponent. -/
  lowest : Int
  /-- Decimal points above this position are written with an exponent. -/
  highest : Int
  /-- Whether a whole number keeps a fraction of one zero. -/
  keepsPoint : Bool
  /-- The least number of digits of an exponent. -/
  exponentWidth : Nat
  /-- The spelling of no number. -/
  nan : String
  /-- The spelling of positive infinity. -/
  infinity : String

/-- Digits without trailing zeros, and the power of ten they were divided by. -/
def stripZeros (ds : List Char) : List Char × Nat :=
  let kept := (ds.reverse.dropWhile (· == '0')).reverse
  (kept, ds.length - kept.length)

/-- The digits `ds` with the decimal point after position `point`. -/
def DecimalLayout.place (layout : DecimalLayout) (ds : List Char) (point : Int) : List Char :=
  if point ≤ layout.lowest ∨ layout.highest < point then
    let e := point - 1
    let fraction := if ds.length ≤ 1 then [] else '.' :: ds.drop 1
    ds.take 1 ++ fraction ++ 'e' :: (if e < 0 then '-' else '+')
      :: Text.paddedDigits layout.exponentWidth e.natAbs
  else if point ≤ 0 then
    '0' :: '.' :: List.replicate (-point).toNat '0' ++ ds
  else if ds.length ≤ point.toNat then
    ds ++ List.replicate (point.toNat - ds.length) '0'
      ++ (if layout.keepsPoint then ['.', '0'] else [])
  else
    ds.take point.toNat ++ '.' :: ds.drop point.toNat

/-- The spelling of a double under a layout. -/
def Binary64.toDecimal (layout : DecimalLayout) : Binary64 → String
  | .nan => layout.nan
  | .infinite s => (if s then "-" else "") ++ layout.infinity
  | .finite s m e =>
    let digits :=
      if m = 0 then layout.place ['0'] 1
      else
        let (c, q) := Binary64.shortest m e
        let (ds, dropped) := stripZeros (Nat.toDigits 10 c)
        layout.place ds (q + dropped + ds.length)
    (if s then "-" else "") ++ String.ofList digits

end SessionGate
