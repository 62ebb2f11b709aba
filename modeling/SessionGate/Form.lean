import SessionGate.Text
import SessionGate.Text.Parts
import SessionGate.Text.Percent

/-!
# Form bodies

A form is a list of pairs, and its body is written with percent signs over UTF-8. `encode?` writes
the pairs, unless one of them holds a surrogate, and `decode?` reads a body back into pairs.
-/

namespace SessionGate

abbrev Form := List (Text × Text)

namespace Form

open Text

/-! ## Writing -/

/-- A blank is a plus sign; apart from that only plain characters stand for themselves. -/
def encodeChar (c : Char) : List Char :=
  if c = ' ' then ['+'] else if Percent.isPlain c then [c] else Percent.encodeChar c

def encodeText? (t : Text) : Option (List Char) :=
  t.string?.map fun s ↦ s.toList.flatMap encodeChar

def encodePair? (p : Text × Text) : Option (List Char) := do
  return (← encodeText? p.1) ++ '=' :: (← encodeText? p.2)

def encode? (form : Form) : Option String :=
  (form.mapM encodePair?).map fun parts ↦ String.ofList (['&'].intercalate parts)

/-! ## Reading -/

/-- The bytes a component stands for. -/
def decodeBytes : List Char → Option Bytes
  | [] => some []
  | '+' :: rest => (decodeBytes rest).map ((32 : UInt8) :: ·)
  | '%' :: a :: b :: rest => do
    let a ← hexDigit? a
    let b ← hexDigit? b
    let bs ← decodeBytes rest
    return (a * 16 + b).toUInt8 :: bs
  | c :: rest => if c = '%' then none else (decodeBytes rest).map (charBytes c ++ ·)

def decodeText? (cs : List Char) : Option Text := do
  let bs ← decodeBytes cs
  let text ← (decodeUtf8 bs).toOption
  return .plain (String.ofList text)

def decodePair? (cs : List Char) : Option (Text × Text) := do
  let name ← decodeText? (cs.takeWhile (· ≠ '='))
  let value ← decodeText? ((cs.dropWhile (· ≠ '=')).drop 1)
  return (name, value)

def decode? (body : String) : Option Form :=
  if body = "" then some [] else (splitOn '&' body.toList).mapM decodePair?

end Form

end SessionGate
