import SessionGate.Binary64.Decimal

/-!
# Doubles with a given number of digits

Where a reader has asked for so many digits, a double is rounded to them: after the point, or after
the first digit with a power of ten behind them. The third form takes so many digits in all and
chooses between the two. Halves go to the even neighbour, and nothing is rounded twice.
-/

namespace SessionGate.Binary64

/-- A way to write a number with a given number of digits. -/
inductive Form where
  /-- Digits after the point. -/
  | fixed
  /-- Digits after the first one, and an exponent. -/
  | scientific
  /-- Digits in all; an exponent only for numbers that are small or have more digits than that. -/
  | general
  deriving DecidableEq, Repr

/-- Digits with a point before the last `places` of them; the point is kept without digits after it
if it is wanted. -/
def pointed (places : Nat) (keepsPoint : Bool) (digits : List Char) : List Char :=
  let padded := List.replicate (places + 1 - digits.length) '0' ++ digits
  let whole := padded.take (padded.length - places)
  whole ++ if places = 0 ∧ !keepsPoint then [] else '.' :: padded.drop whole.length

/-- The fraction `num / den` with digits after the point. -/
def fixedText (places : Nat) (keepsPoint : Bool) (num den : Nat) : List Char :=
  pointed places keepsPoint (Nat.toDigits 10 (roundDiv (num * Nat.pow 10 places) den))

/-- The digits of the fraction `num / den`, one more than `places`, and the exponent of the first
one. -/
def leadingDigits (places : Nat) (num den : Nat) : Nat × Int :=
  if num = 0 then (0, 0)
  else
    let e := decimalExponent num den - 1
    let (n, d) := gridScale num den (e - places)
    let digits := roundDiv n d
    if digits = Nat.pow 10 (places + 1) then (Nat.pow 10 places, e + 1) else (digits, e)

/-- An exponent with its sign and at least two digits. -/
def exponentText (e : Int) : List Char :=
  'e' :: (if e < 0 then '-' else '+') :: Text.paddedDigits 2 e.natAbs

def scientificText (places : Nat) (keepsPoint : Bool) (num den : Nat) : List Char :=
  let (digits, e) := leadingDigits places num den
  pointed places keepsPoint (Text.paddedDigits (places + 1) digits) ++ exponentText e

/-- Without zeros at the end of a fraction, and without its point if nothing is left of it. -/
def dropFractionZeros (cs : List Char) : List Char :=
  if cs.contains '.' then
    let kept := (cs.reverse.dropWhile (· == '0')).reverse
    if kept.getLast? = some '.' then kept.dropLast else kept
  else cs

/-- The form with so many digits in all; zeros at the end are kept if they are wanted. -/
def generalText (digits : Nat) (keepsZeros : Bool) (num den : Nat) : List Char :=
  let digits := max 1 digits
  let (leading, e) := leadingDigits (digits - 1) num den
  let tidy (cs : List Char) : List Char := if keepsZeros then cs else dropFractionZeros cs
  if e < -4 ∨ (digits : Int) ≤ e then
    let mantissa := Text.paddedDigits digits leading
    tidy (pointed (digits - 1) keepsZeros mantissa) ++ exponentText e
  else tidy (fixedText ((digits : Int) - 1 - e).toNat keepsZeros num den)

/-- The text of a double in a form; `full` keeps the point, and zeros at the end, in any case. -/
def toText (form : Form) (digits : Nat) (full : Bool) (x : Binary64) : List Char :=
  match x.toRatio? with
  | none => if x = .nan then "nan".toList else (if x.isNegative then ['-'] else []) ++ "inf".toList
  | some (n, d) =>
    (if x.isNegative then ['-'] else []) ++
      match form with
      | .fixed => fixedText digits full n.natAbs d
      | .scientific => scientificText digits full n.natAbs d
      | .general => generalText digits full n.natAbs d

end SessionGate.Binary64
