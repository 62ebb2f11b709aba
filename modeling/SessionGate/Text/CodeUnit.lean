/-!
# Code points and units of two bytes

The tables of character properties are lists of ranges of code points.

A character past the first 65536 code points is written as a pair of units: one of the high
surrogates and one of the low ones. A surrogate without its other half stands for no character, but
it may stand in a text all the same: a `CodePoint` is a character or a surrogate on its own.
-/

namespace SessionGate

/-- A surrogate: half of a pair of units. -/
structure Surrogate where
  value : Nat
  inRange : 0xD800 ≤ value ∧ value < 0xE000
  deriving DecidableEq, Repr

inductive CodePoint where
  | char (c : Char)
  | lone (s : Surrogate)
  deriving DecidableEq, Repr

namespace CodePoint

def toNat : CodePoint → Nat
  | char c => c.toNat
  | lone s => s.value

def char? : CodePoint → Option Char
  | char c => some c
  | lone _ => none

def isLone : CodePoint → Bool
  | char _ => false
  | lone _ => true

/-- The code point of a number, which is that of a unit on its own if it is a surrogate's. -/
def ofNat (n : Nat) : CodePoint :=
  if h : 0xD800 ≤ n ∧ n < 0xE000 then lone ⟨n, h⟩ else char (Char.ofNat n)

def ofChars (cs : List Char) : List CodePoint :=
  cs.map char

/-- The characters a list begins with, and the rest from the first surrogate on. -/
def spanChars : List CodePoint → List Char × List CodePoint
  | char c :: ps => (c :: (spanChars ps).1, (spanChars ps).2)
  | ps => ([], ps)

end CodePoint

namespace Text

/-- The code points from the first to the second, both included. -/
abbrev CodeRange := Nat × Nat

def CodeRange.has (r : CodeRange) (c : Char) : Bool :=
  r.1 ≤ c.toNat && c.toNat ≤ r.2

def isHighSurrogate (n : Nat) : Bool := 0xD800 ≤ n && n < 0xDC00

def isLowSurrogate (n : Nat) : Bool := 0xDC00 ≤ n && n < 0xE000

/-- The character a pair of surrogates stands for. -/
def joinSurrogates (high low : Nat) : Char :=
  Char.ofNat (0x10000 + (high - 0xD800) * 0x400 + (low - 0xDC00))

/-- The units of a code point. -/
def unitsOf (n : Nat) : List Nat :=
  if n < 0x10000 then [n]
  else [0xD800 + (n - 0x10000) / 0x400, 0xDC00 + (n - 0x10000) % 0x400]

/-- The code points of a list of units. -/
def joinUnits : List Nat → List CodePoint
  | [] => []
  | [n] => [.ofNat n]
  | n :: m :: rest =>
    if isHighSurrogate n && isLowSurrogate m then .char (joinSurrogates n m) :: joinUnits rest
    else .ofNat n :: joinUnits (m :: rest)

end Text

end SessionGate
