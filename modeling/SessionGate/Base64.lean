import SessionGate.Text.Utf8

/-!
# Base64

`encode` writes bytes in the URL form, which has an alphabet of its own and no padding, and
`encodeStandard` in the standard form. `decode?` is lenient: it knows both alphabets, passes over
every byte that is in neither, and stops at the first complete padding. It fails only where the
sextets do not add up to whole bytes. `decodeStandard?` is strict: it reads what `encodeStandard`
writes and nothing else.
-/

namespace SessionGate.Base64

open Text

/-! ## Writing -/

def letter (n : Nat) : UInt8 :=
  if n < 26 then (65 + n).toUInt8
  else if n < 52 then (97 + (n - 26)).toUInt8
  else if n < 62 then (48 + (n - 52)).toUInt8
  else if n = 62 then 45
  else 95

def encode : Bytes → Bytes
  | [] => []
  | [a] => [letter (a.toNat / 4), letter (a.toNat % 4 * 16)]
  | [a, b] =>
    [letter (a.toNat / 4), letter (a.toNat % 4 * 16 + b.toNat / 16), letter (b.toNat % 16 * 4)]
  | a :: b :: c :: rest =>
    letter (a.toNat / 4) :: letter (a.toNat % 4 * 16 + b.toNat / 16)
      :: letter (b.toNat % 16 * 4 + c.toNat / 64) :: letter (c.toNat % 64) :: encode rest

def pad : UInt8 := 61

/-- Padding up to a multiple of four, counted over all bytes of the text. -/
def padded (bs : Bytes) : Bytes :=
  bs ++ List.replicate ((4 - bs.length % 4) % 4) pad

/-- The letter of the standard alphabet in place of one of the URL alphabet. -/
def standardLetter (b : UInt8) : UInt8 :=
  if b = 45 then 43 else if b = 95 then 47 else b

/-- The letters of the bytes in the standard alphabet, with padding. -/
def encodeStandard (bs : Bytes) : Bytes :=
  padded ((encode bs).map standardLetter)

/-! ## Reading -/

/-- The sextet of a letter of either alphabet. -/
def sextet? (b : UInt8) : Option Nat :=
  let n := b.toNat
  if 65 ≤ n ∧ n ≤ 90 then some (n - 65)
  else if 97 ≤ n ∧ n ≤ 122 then some (n - 97 + 26)
  else if 48 ≤ n ∧ n ≤ 57 then some (n - 48 + 52)
  else if n = 43 ∨ n = 45 then some 62
  else if n = 47 ∨ n = 95 then some 63
  else none

/-- Reads on inside a group of four letters: `place` of them are read, `bits` are left over of
them, and `pads` padding signs came since the last letter. -/
def decodeFrom (place bits pads : Nat) : Bytes → Option Bytes
  | [] => if place = 0 then some [] else none
  | b :: rest =>
    if b = pad then
      if place < 2 then decodeFrom place bits pads rest
      else if 4 ≤ place + pads + 1 then some []
      else decodeFrom place bits (pads + 1) rest
    else
      match sextet? b with
      | none => decodeFrom place bits pads rest
      | some v =>
        match place with
        | 0 => decodeFrom 1 v 0 rest
        | 1 => (decodeFrom 2 (v % 16) 0 rest).map ((bits * 4 + v / 16).toUInt8 :: ·)
        | 2 => (decodeFrom 3 (v % 4) 0 rest).map ((bits * 16 + v / 4).toUInt8 :: ·)
        | _ => (decodeFrom 0 0 0 rest).map ((bits * 64 + v).toUInt8 :: ·)

/-- The bytes a text stands for. -/
def decode? (bs : Bytes) : Option Bytes :=
  decodeFrom 0 0 0 bs

/-- The bytes whose standard form a text is. -/
def decodeStandard? (bs : Bytes) : Option Bytes :=
  (decode? bs).filter fun bytes ↦ encodeStandard bytes == bs

/-- The bytes of a segment of a token, which is written without padding. -/
def decodeSegment? (bs : Bytes) : Option Bytes :=
  decode? (padded bs)

/-- The number whose big-endian bytes these are. -/
def toNumber (bs : Bytes) : Nat :=
  bs.foldl (fun n b ↦ n * 256 + b.toNat) 0

end SessionGate.Base64
