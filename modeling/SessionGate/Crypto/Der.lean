import SessionGate.Crypto.Sha2

/-!
# Nested elements in bytes

An element is a tag, a length and that many bytes, which may be elements in turn. There is one form
of each element: the shortest one of its length, and of a number the shortest one of the number.
Every other form is refused.
-/

namespace SessionGate.Der

open Text

structure Element where
  tag : UInt8
  content : Bytes
  deriving DecidableEq, Repr

def sequenceTag : UInt8 := 0x30

def integerTag : UInt8 := 0x02

def octetsTag : UInt8 := 0x04

def identifierTag : UInt8 := 0x06

def nullTag : UInt8 := 0x05

/-- The length an element states, and the bytes after it. A first byte above 128 counts the bytes
that hold the length, four at most. -/
def readLength? : Bytes → Option (Nat × Bytes)
  | [] => none
  | b :: rest =>
    if b < 0x80 then some (b.toNat, rest)
    else
      let count := b.toNat - 0x80
      let length := Sha2.ofBigEndian (rest.take count)
      let least := if count = 1 then 128 else Nat.pow 256 (count - 1)
      if count = 0 ∨ 4 < count ∨ rest.length < count ∨ length < least then none
      else some (length, rest.drop count)

def read? : Bytes → Option (Element × Bytes)
  | [] => none
  | tag :: rest => do
    let (length, body) ← readLength? rest
    if body.length < length then none
    else return (⟨tag, body.take length⟩, body.drop length)

def readAll? (bs : Bytes) : Option (List Element) :=
  if bs.isEmpty then some []
  else
    match read? bs with
    | none => none
    | some (element, rest) =>
      if rest.length < bs.length then (readAll? rest).map (element :: ·) else none
termination_by bs.length

/-- The elements inside the one sequence that the bytes are. -/
def readSequence? (bs : Bytes) : Option (List Element) := do
  match ← readAll? bs with
  | [element] => if element.tag = sequenceTag then readAll? element.content else none
  | _ => none

/-- Whether the bytes are the shortest ones of a number that is not negative. -/
def isShortest : Bytes → Bool
  | [] => false
  | [b] => b < 0x80
  | a :: b :: _ => a < 0x80 && (a != 0 || 0x80 ≤ b)

/-- The number that an element is. -/
def Element.natural? (element : Element) : Option Nat :=
  if element.tag = integerTag ∧ isShortest element.content then
    some (Sha2.ofBigEndian element.content)
  else none

end SessionGate.Der
