import SessionGate.Binary64.Decimal
import SessionGate.Json
import SessionGate.Text.CodeUnit
import SessionGate.Text.Digits

/-!
# Writing JSON text

`JsonStyle` holds what the two written forms of this library disagree about: the blanks after
separators. Everything outside ASCII is escaped in both, code point by code point, with a pair of
surrogates past the basic plane. So a surrogate on its own has a text here, though none in the form
that is sent, where nothing is escaped: `Json.isWritable`.
-/

namespace SessionGate

/-- The separators of a written form. -/
structure JsonStyle where
  betweenItems : String
  afterName : String

/-- No blanks: the form of signed payloads. -/
def JsonStyle.compact : JsonStyle := ⟨",", ":"⟩

/-- One blank after each separator: the form label sets are ordered by. -/
def JsonStyle.spaced : JsonStyle := ⟨", ", ": "⟩

namespace Json

/-- Numbers are positional from `0.0001` up to below `10 ^ 16`, keep a point, and have exponents of
at least two digits; what is no finite number is written as a word. -/
def numberLayout : DecimalLayout where
  lowest := -4
  highest := 16
  keepsPoint := true
  exponentWidth := 2
  nan := "NaN"
  infinity := "Infinity"

/-- The escapes of the code units of a code point. -/
def unicodeEscape (n : Nat) : List Char :=
  (Text.unitsOf n).flatMap fun unit ↦ '\\' :: 'u' :: Text.hexDigits 4 unit

/-- A character inside a string. -/
def escapeChar (c : Char) : List Char :=
  if c = '"' then ['\\', '"']
  else if c = '\\' then ['\\', '\\']
  else if c = '\n' then ['\\', 'n']
  else if c = '\r' then ['\\', 'r']
  else if c = '\t' then ['\\', 't']
  else if c = '\x0c' then ['\\', 'f']
  else if c = '\x08' then ['\\', 'b']
  else if 0x20 ≤ c.toNat ∧ c.toNat < 0x7f then [c]
  else unicodeEscape c.toNat

/-- A code point inside a string. -/
def escapePoint : CodePoint → List Char
  | .char c => escapeChar c
  | .lone s => unicodeEscape s.value

def quote (s : Text) : List Char :=
  '"' :: s.points.flatMap escapePoint ++ ['"']

def printInt (n : Int) : List Char :=
  if n < 0 then '-' :: Nat.toDigits 10 n.natAbs else Nat.toDigits 10 n.natAbs

mutual

def print (style : JsonStyle) : Json → List Char
  | .null => "null".toList
  | .bool b => (if b then "true" else "false").toList
  | .int n => printInt n
  | .float x => (x.toDecimal numberLayout).toList
  | .str s => quote s
  | .arr xs => '[' :: style.betweenItems.toList.intercalate (printItems style xs) ++ [']']
  | .obj ms => '\x7b' :: style.betweenItems.toList.intercalate (printMembers style ms) ++ ['\x7d']

def printItems (style : JsonStyle) : List Json → List (List Char)
  | [] => []
  | x :: xs => print style x :: printItems style xs

def printMembers (style : JsonStyle) : List (Text × Json) → List (List Char)
  | [] => []
  | (n, v) :: ms => (quote n ++ style.afterName.toList ++ print style v) :: printMembers style ms

end

/-! ## What can be written -/

mutual

/-- Whether a value can be sent as strict JSON: its numbers are finite, its integers within the
digits that are written, and there are no surrogates in its texts. -/
def isWritable : Json → Bool
  | .str s => s.isPlain
  | .int n => n.natAbs < Nat.pow 10 Text.digitLimit
  | .float x => x.isFinite
  | .arr xs => areWritable xs
  | .obj ms => membersAreWritable ms
  | _ => true

def areWritable : List Json → Bool
  | [] => true
  | x :: xs => isWritable x && areWritable xs

def membersAreWritable : List (Text × Json) → Bool
  | [] => true
  | (n, v) :: ms => n.isPlain && isWritable v && membersAreWritable ms

end

/-- Why a value has no text at all. -/
inductive TextFault where
  /-- An integer has more digits than are written. -/
  | tooLong
  /-- There are more levels of nesting than there is room for. -/
  | tooDeep
  deriving DecidableEq, Repr

mutual

/-- The first fault of a value, in the order of its text. A number that is not finite is written as
a word. -/
def textFault? : Nat → Json → Option TextFault
  | _, .int n => if n.natAbs < Nat.pow 10 Text.digitLimit then none else some .tooLong
  | 0, .arr _ => some .tooDeep
  | room + 1, .arr xs => itemFault? room xs
  | 0, .obj _ => some .tooDeep
  | room + 1, .obj ms => memberFault? room ms
  | _, _ => none

def itemFault? : Nat → List Json → Option TextFault
  | _, [] => none
  | room, x :: xs => (textFault? room x).or (itemFault? room xs)

def memberFault? : Nat → List (Text × Json) → Option TextFault
  | _, [] => none
  | room, (_, v) :: ms => (textFault? room v).or (memberFault? room ms)

end

def write (style : JsonStyle) (v : Json) : String :=
  String.ofList (print style v)

end Json

end SessionGate
