import SessionGate.Binary64.Decimal
import SessionGate.Json
import SessionGate.Text.Digits
import SessionGate.Text.Printable

/-!
# Values as a reader sees them

Messages show the value that was refused. `Json.literal` writes it so that strings are told from
numbers: strings are quoted, truth values and null are capitalised words. `Json.display` is the
same except that a string on its own stands without quotes.

A string is quoted with single quotes, unless it holds one and no double quote; then double quotes
are used. Code points that cannot be shown are written by their numbers.
-/

namespace SessionGate

namespace Text

/-- A code point as an escape of two, four or eight digits. -/
def escapeCode (n : Nat) : List Char :=
  if n < 0x100 then '\\' :: 'x' :: hexDigits 2 n
  else if n < 0x10000 then '\\' :: 'u' :: hexDigits 4 n
  else '\\' :: 'U' :: hexDigits 8 n

/-- A code point inside a quoted text. -/
def escapeFor (mark : Char) : CodePoint → List Char
  | .char c =>
    if c = mark ∨ c = '\\' then ['\\', c]
    else if c = '\t' then ['\\', 't']
    else if c = '\n' then ['\\', 'n']
    else if c = '\r' then ['\\', 'r']
    else if 0x20 ≤ c.toNat ∧ c.toNat < 0x7f then [c]
    else if isPrintable c then [c]
    else escapeCode c.toNat
  | .lone s => escapeCode s.value

/-- The mark a text is quoted with. -/
def quoteMark (ps : List CodePoint) : Char :=
  if .char '\'' ∈ ps ∧ .char '"' ∉ ps then '"' else '\''

def quoted (s : Text) : List Char :=
  let mark := quoteMark s.points
  mark :: s.points.flatMap (escapeFor mark) ++ [mark]

/-- Numbers are positional from `0.0001` up to below `10 ^ 16` and keep a point. -/
def numberLayout : DecimalLayout where
  lowest := -4
  highest := 16
  keepsPoint := true
  exponentWidth := 2
  nan := "nan"
  infinity := "inf"

end Text

namespace Json

mutual

def literalChars : Json → List Char
  | .null => "None".toList
  | .bool b => (if b then "True" else "False").toList
  | .int n => (toString n).toList
  | .float x => (x.toDecimal Text.numberLayout).toList
  | .str s => Text.quoted s
  | .arr xs => '[' :: [',', ' '].intercalate (literalItems xs) ++ [']']
  | .obj ms => '\x7b' :: [',', ' '].intercalate (literalMembers ms) ++ ['\x7d']

def literalItems : List Json → List (List Char)
  | [] => []
  | x :: xs => literalChars x :: literalItems xs

def literalMembers : List (Text × Json) → List (List Char)
  | [] => []
  | (n, v) :: ms => (Text.quoted n ++ ':' :: ' ' :: literalChars v) :: literalMembers ms

end

def literal (v : Json) : String :=
  String.ofList v.literalChars

/-- The value, a string on its own without quotes. -/
def display : Json → Text
  | .str s => s
  | v => v.literal

end Json

end SessionGate
