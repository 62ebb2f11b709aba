import SessionGate.Text.Utf8

/-!
# Percent signs

In addresses and forms a character that may not stand for itself is written as its bytes, each of
them as a percent sign and two digits. `quote` writes what is not safe in this way and leaves alone
what has been written so; `unquote` reads it back.
-/

namespace SessionGate.Text.Percent

/-- Letters, digits and four marks never need to be written otherwise. -/
def isPlain (c : Char) : Bool :=
  c.isAlphanum || c == '-' || c == '.' || c == '_' || c == '~'

def encodeByte (b : UInt8) : List Char :=
  '%' :: (hexDigits 2 b.toNat).map Char.toUpper

def encodeChar (c : Char) : List Char :=
  (charBytes c).flatMap encodeByte

/-- The byte that two digits stand for. -/
def byte? (a b : Char) : Option UInt8 := do
  return ((← hexDigit? a) * 16 + (← hexDigit? b)).toUInt8

/-- The text in which every character is plain, safe or part of a byte that is written out. -/
def quote (isSafe : Char → Bool) : List Char → List Char
  | [] => []
  | '%' :: a :: b :: rest =>
    if (byte? a b).isSome then '%' :: a :: b :: quote isSafe rest
    else (if isSafe '%' then ['%'] else encodeChar '%') ++ quote isSafe (a :: b :: rest)
  | c :: rest => (if isPlain c || isSafe c then [c] else encodeChar c) ++ quote isSafe rest

/-- The bytes of a text, where what looks like a byte is one. -/
def bytes : List Char → Bytes
  | [] => []
  | '%' :: a :: b :: rest =>
    match byte? a b with
    | some byte => byte :: bytes rest
    | none => charBytes '%' ++ bytes (a :: b :: rest)
  | c :: rest => charBytes c ++ bytes rest

/-- The text that is meant. -/
def unquote (cs : List Char) : List Char :=
  repairUtf8 (bytes cs)

end SessionGate.Text.Percent
