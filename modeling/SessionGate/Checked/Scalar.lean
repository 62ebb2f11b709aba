import SessionGate.Checked
import SessionGate.Text.Blank
import SessionGate.Text.Digits
import SessionGate.Text.Utf8

/-!
# Truth values and numbers in fields

Fields come from JSON bodies and from settings, which are text, so a truth value or a number may
also be spelled as a text. `bool`, `int` and `float` accept a value of another type if it says
exactly one value of theirs.
-/

namespace SessionGate.Checked

open Text

def trimNumber (cs : List Char) : List Char :=
  trimBy isPlainBlank cs

/-! ## Truth values -/

def falseWords : List String := ["0", "off", "f", "false", "n", "no"]

def trueWords : List String := ["1", "on", "t", "true", "y", "yes"]

/-- The truth value of a word in any case. -/
def readBool? (s : String) : Option Bool :=
  let word := String.ofList (s.toList.map Char.toLower)
  if falseWords.contains word then some false
  else if trueWords.contains word then some true
  else none

/-- Zero and one. Another integer of 64 bits is no truth value, and one past these is not even
looked at. -/
def boolOfInt (n : Int) : Checked Bool :=
  if n = 0 then valid false
  else if n = 1 then valid true
  else if -(Nat.pow 2 63 : Nat) ≤ n ∧ n < (Nat.pow 2 63 : Nat) then fault .unreadableBool
  else fault .notBool

def boolOfText (s : String) : Checked Bool :=
  match readBool? s with
  | some b => valid b
  | none => fault .unreadableBool

def bool : Json → Checked Bool
  | .bool b => valid b
  | .int n => boolOfInt n
  | .str s => unicode boolOfText s
  | .float x =>
    match x.toInt? with
    | some n => if n.natAbs < Nat.pow 2 63 then boolOfInt n else fault .notBool
    | none => fault .notBool
  | _ => fault .notBool

/-! ## Integers -/

/-- The characters of a plainly spelled integer that are read at most. -/
def integerSizeLimit : Nat := 4300

/-- The integer in its plain spelling: digits without needless zeros, perhaps after a minus. -/
def plainInteger (cs : List Char) : Except FieldFaultKind Int :=
  let (negative, body) :=
    match cs with
    | '-' :: rest => (true, rest)
    | cs => (false, cs)
  match spanDigits body with
  | ([], _) => .error .unreadableInteger
  | ('0' :: zeros, rest) =>
    if zeros.isEmpty && rest.isEmpty then .ok 0 else .error .unreadableInteger
  | (ds, rest) =>
    if integerSizeLimit < cs.length - rest.length then .error .integerTooLong
    else if rest.isEmpty then
      let n := digitsValue ds
      .ok (if negative then -(n : Int) else n)
    else .error .unreadableInteger

/-- Without a plus in front; a minus may not follow it. -/
def dropPlus? : List Char → Option (List Char)
  | '+' :: '-' :: _ => none
  | '+' :: rest => some rest
  | cs => some cs

/-- Without zeros and underscores after a first zero. A point keeps the character before it, and
the last character stays in any case. -/
def skipZeros? (last : Char) : List Char → Option (List Char)
  | [] => some [last]
  | '.' :: rest => some (last :: '.' :: rest)
  | c :: rest =>
    if c = '0' ∨ c = '_' then skipZeros? c rest
    else if c.isDigit ∨ c = '-' then some (c :: rest)
    else none

/-- Without the zeros a number may begin with. -/
def dropLeadingZeros? : List Char → Option (List Char)
  | [] => none
  | c :: rest =>
    if c = '0' then skipZeros? c rest
    else if c.isDigit ∨ c = '-' then some (c :: rest)
    else none

/-- Without a point that is followed by zeros alone, and by one at least. -/
def dropZeroFraction (cs : List Char) : List Char :=
  match cs.dropWhile (· ≠ '.') with
  | _ :: d :: ds => if (d :: ds).all (· == '0') then cs.takeWhile (· ≠ '.') else cs
  | _ => cs

/-- Whether no underscore is at an end or beside another. -/
def underscoresSeparate : List Char → Bool
  | [] => true
  | ['_'] => false
  | '_' :: '_' :: _ => false
  | _ :: rest => underscoresSeparate rest

/-- Without underscores, if each stands between two other characters. -/
def dropUnderscores? (cs : List Char) : Option (List Char) :=
  if cs.head? ≠ some '_' ∧ underscoresSeparate cs then some (cs.filter (· ≠ '_')) else none

/-- What a loose spelling of an integer is in the plain one. -/
def plainSpelling? (cs : List Char) : Option (List Char) := do
  let cs ← dropPlus? (trimNumber cs)
  let cs := dropZeroFraction (← dropLeadingZeros? cs)
  return (dropUnderscores? cs).getD cs

def readInt (s : String) : Except FieldFaultKind Int :=
  match plainInteger s.toList with
  | .error .unreadableInteger =>
    match plainSpelling? s.toList with
    | some cs => plainInteger cs
    | none => .error .unreadableInteger
  | result => result

def intOfText (s : String) : Checked Int :=
  match readInt s with
  | .ok n => valid n
  | .error kind => fault kind

def int : Json → Checked Int
  | .int n => valid n
  | .bool b => valid (if b then 1 else 0)
  | .str s => unicode intOfText s
  | .float x =>
    if !x.isFinite then fault .notFinite
    else
      match x.toInt? with
      | none => fault .fractional
      | some n => if n.natAbs < Nat.pow 2 63 then valid n else fault .integerTooLong
  | _ => fault .notInteger

/-! ## Numbers -/

/-- The exponent after its letter: a sign and at least one digit. -/
def readExponent? (cs : List Char) : Option Int :=
  let (negative, digits) := spanSign cs
  match spanDigits digits with
  | (d :: ds, []) =>
    let n := digitsValue (d :: ds)
    some (if negative then -(n : Int) else n)
  | _ => none

/-- A number without its sign: digits, a point and digits, and an exponent; one of the two runs of
digits may be missing. -/
def readUnsignedFloat? (negative : Bool) (cs : List Char) : Option Binary64 :=
  let (whole, rest) := spanDigits cs
  let (fraction, rest) :=
    match rest with
    | '.' :: more => spanDigits more
    | rest => ([], rest)
  let number (exponent : Int) : Binary64 :=
    .ofDecimal negative (digitsValue (whole ++ fraction)) (exponent - fraction.length)
  if whole.isEmpty && fraction.isEmpty then none
  else
    match rest with
    | [] => some (number 0)
    | c :: more => if c = 'e' ∨ c = 'E' then (readExponent? more).map number else none

/-- The words for what is no finite number. -/
def readFloatWord? (negative : Bool) (cs : List Char) : Option Binary64 :=
  let word := String.ofList (cs.map Char.toLower)
  if word = "inf" ∨ word = "infinity" then some (.infinite negative)
  else if word = "nan" then some .nan
  else none

def readPlainFloat? (cs : List Char) : Option Binary64 :=
  let (negative, body) := spanSign cs
  (readFloatWord? negative body).orElse fun _ ↦ readUnsignedFloat? negative body

/-- A spelled number; underscores may separate its characters. -/
def readFloat? (s : String) : Option Binary64 :=
  (readPlainFloat? (trimNumber s.toList)).orElse fun _ ↦
    (dropUnderscores? s.toList).bind readPlainFloat?

def floatOfText (s : String) : Checked Binary64 :=
  match readFloat? s with
  | some x => valid x
  | none => fault .unreadableFloat

def float : Json → Checked Binary64
  | .float x => valid x
  | .int n => valid (.ofInt n)
  | .bool b => valid (.ofNat (if b then 1 else 0))
  | .str s => unicode floatOfText s
  | _ => fault .notFloat

end SessionGate.Checked
