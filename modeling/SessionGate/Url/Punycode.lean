import SessionGate.Text.Parts

/-!
# Characters beyond ASCII in ASCII

A label of a host name is sent in ASCII. Its ASCII characters come first; the others follow as
numbers that say where they are to be put in. The characters are put in in the order of their code
points, and each number counts the places passed over since the last one, where going on to the next
code point passes over all places.

A number is written with the letters and digits as digits to the base 36, the last digit being one
below a threshold. The thresholds depend on a bias, which follows the size of the numbers so far.

`encode` writes a label in this form, and `decode?` reads it back.
-/

namespace SessionGate.Url.Punycode

/-! ## Numbers -/

/-- The letter or digit that stands for a digit to the base 36. -/
def digit (n : Nat) : Char :=
  if n < 26 then Char.ofNat ('a'.toNat + n) else Char.ofNat ('0'.toNat + (n - 26))

/-- The threshold at a place, between 1 and 26; places count in steps of 36. -/
def threshold (bias place : Nat) : Nat :=
  max 1 (min 26 (place - bias))

/-- A number, its lowest digit first, from a place on. -/
def number (bias place n : Nat) : List Char :=
  let t := threshold bias place
  if n < t then [digit n]
  else digit (t + (n - t) % (36 - t)) :: number bias (place + 36) ((n - t) / (36 - t))
termination_by n
decreasing_by
  have positive : 1 ≤ threshold bias place := by simp only [threshold]; omega
  have := Nat.div_le_self (n - threshold bias place) (36 - threshold bias place)
  omega

/-- Divides by 35 until at most 455 is left; each time adds 36. -/
def scaleDown (n bias : Nat) : Nat × Nat :=
  if 455 < n then scaleDown (n / 35) (bias + 36) else (n, bias)
termination_by n
decreasing_by omega

/-- The bias after a number, when so many characters have been written; the first number counts for
little. -/
def adapt (n written : Nat) (isFirst : Bool) : Nat :=
  let n := if isFirst then n / 700 else n / 2
  let (n, bias) := scaleDown (n + n / written) 0
  bias + 36 * n / (n + 38)

/-! ## Labels -/

/-- What has been written, and the number that is being counted. -/
structure State where
  out : List Char := []
  count : Nat := 0
  bias : Nat := 72
  written : Nat

/-- Passes over a place, or puts the character there in if it is the one with the code point. -/
def visit (basic code : Nat) (s : State) (c : Char) : State :=
  if c.toNat < code then { s with count := s.count + 1 }
  else if c.toNat = code then
    { out := s.out ++ number s.bias 36 s.count
      count := 0
      bias := adapt s.count (s.written + 1) (s.written == basic)
      written := s.written + 1 }
  else s

/-- Puts in the characters with the given code points, which ascend; `next` is the one after the
last that was looked for. -/
def insertAll (cs : List Char) (basic : Nat) : List Nat → Nat → State → State
  | [], _, s => s
  | code :: codes, next, s =>
    let s := { s with count := s.count + (code - next) * (s.written + 1) }
    let s := cs.foldl (visit basic code) s
    insertAll cs basic codes (code + 1) { s with count := s.count + 1 }

def encode (cs : List Char) : List Char :=
  let basic := cs.filter (·.toNat < 128)
  let codes := ((cs.filter (128 ≤ ·.toNat)).map Char.toNat).mergeSort.eraseDups
  let s := insertAll cs basic.length codes 128 { written := basic.length }
  basic ++ (if basic.isEmpty then [] else ['-']) ++ s.out

/-! ## Labels from ASCII -/

/-- The digit to the base 36 that a letter or digit stands for. -/
def digit? (c : Char) : Option Nat :=
  if c.isLower then some (c.toNat - 'a'.toNat)
  else if c.isDigit then some (c.toNat - '0'.toNat + 26)
  else none

/-- The label so far, where the last character was put in and which one it was, and the number that
is being read: the digits so far, the place of the next one and what it counts. -/
structure Reading where
  label : List Char
  index : Nat := 0
  code : Nat := 128
  isFirst : Bool := true
  bias : Nat := 72
  value : Nat := 0
  place : Nat := 36
  weight : Nat := 1

/-- Puts the character in that a number leads to. -/
def Reading.insert? (s : Reading) (n : Nat) : Option Reading :=
  let places := s.label.length + 1
  let index := (s.index + n) % places
  let code := s.code + (s.index + n) / places
  if code.isValidChar then
    some {
      label := s.label.take index ++ Char.ofNat code :: s.label.drop index
      index := index + 1
      code
      isFirst := false
      bias := adapt n places s.isFirst }
  else none

/-- Reads a digit, which is the last one of its number if it is below the threshold. -/
def Reading.digit? (s : Reading) (c : Char) : Option Reading := do
  let d ← Punycode.digit? c
  let t := threshold s.bias s.place
  let value := s.value + d * s.weight
  if d < t then s.insert? value
  else return { s with value, place := s.place + 36, weight := s.weight * (36 - t) }

/-- The label whose ASCII form this is; its last number has to be whole. -/
def decode? (cs : List Char) : Option (List Char) := do
  let (basic, digits) := (Text.cutLast? '-' cs).getD ([], cs)
  let s ← digits.foldlM Reading.digit? { label := basic }
  if s.place = 36 then return s.label else none

end SessionGate.Url.Punycode
