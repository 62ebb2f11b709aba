import SessionGate.Text.CodeUnit
import SessionGate.Text.Utf8

/-!
# Which encoding a document is in

A JSON document begins with an ASCII character, so the zero bytes among its first four tell its
encoding; a byte order mark tells it directly. `Encoding.detect` is that rule and `Encoding.decode`
reads the bytes. Surrogates
are read too, in each encoding: two halves of a pair are joined only where units of two bytes are.
-/

namespace SessionGate.Text

/-- The encodings of a document: UTF-8, or units of two or four bytes in either order. -/
inductive Encoding where
  | utf8
  | utf16 (bigEndian : Bool)
  | utf32 (bigEndian : Bool)
  deriving DecidableEq, Repr

namespace Encoding

def name : Encoding → String
  | .utf8 => "utf-8"
  | .utf16 true => "utf-16-be"
  | .utf16 false => "utf-16-le"
  | .utf32 true => "utf-32-be"
  | .utf32 false => "utf-32-le"

/-- The encoding and the length of the byte order mark. -/
def detect : Bytes → Encoding × Nat
  | 0x00 :: 0x00 :: 0xFE :: 0xFF :: _ => (.utf32 true, 4)
  | 0xFF :: 0xFE :: 0x00 :: 0x00 :: _ => (.utf32 false, 4)
  | 0xFE :: 0xFF :: _ => (.utf16 true, 2)
  | 0xFF :: 0xFE :: _ => (.utf16 false, 2)
  | 0xEF :: 0xBB :: 0xBF :: _ => (.utf8, 3)
  | a :: b :: c :: d :: _ =>
    if a = 0 then (if b = 0 then .utf32 true else .utf16 true, 0)
    else if b = 0 then (if c = 0 ∧ d = 0 then .utf32 false else .utf16 false, 0)
    else (.utf8, 0)
  | [a, b] =>
    if a = 0 then (.utf16 true, 0) else if b = 0 then (.utf16 false, 0) else (.utf8, 0)
  | _ => (.utf8, 0)

/-! ## Units of two bytes -/

/-- The units, or the bytes left over at the end with their position. -/
def pairs (bigEndian : Bool) (pos : Nat) : Bytes → Except (Nat × Bytes) (List Nat)
  | [] => .ok []
  | [b] => .error (pos, [b])
  | a :: b :: rest =>
    let unit := if bigEndian then a.toNat * 256 + b.toNat else b.toNat * 256 + a.toNat
    (pairs bigEndian (pos + 2) rest).map (unit :: ·)

/-! ## Units of four bytes -/

def quad (bigEndian : Bool) (a b c d : UInt8) : Nat :=
  if bigEndian then ((a.toNat * 256 + b.toNat) * 256 + c.toNat) * 256 + d.toNat
  else ((d.toNat * 256 + c.toNat) * 256 + b.toNat) * 256 + a.toNat

def quads (bigEndian : Bool) (pos : Nat) : Bytes → Except DecodeFault (List CodePoint)
  | [] => .ok []
  | a :: b :: c :: d :: rest =>
    let n := quad bigEndian a b c d
    if n < 0x110000 then
      (quads bigEndian (pos + 4) rest).map (CodePoint.ofNat n :: ·)
    else
      .error ⟨name (.utf32 bigEndian), pos, [a, b, c, d], "code point not in range(0x110000)"⟩
  | bs => .error ⟨name (.utf32 bigEndian), pos, bs, "truncated data"⟩

/-! ## UTF-8 with surrogates -/

/-- The surrogate that three bytes are. -/
def surrogate? (b second third : UInt8) : Option CodePoint :=
  if b == 0xED && 0xA0 ≤ second && second < 0xC0 && isContinuation third then
    some (.ofNat (0xD000 + (second.toNat - 0x80) * 0x40 + (third.toNat - 0x80)))
  else none

/-- As `decodeUtf8From`, except that the bytes of a surrogate are read. -/
def lenientUtf8 (pos : Nat) : Bytes → Except DecodeFault (List CodePoint)
  | [] => .ok []
  | b :: rest =>
    match surrogate? b (rest.getD 0 0) (rest.getD 1 0) with
    | some p => (lenientUtf8 (pos + 3) (rest.drop 2)).map (p :: ·)
    | none =>
      match sequence b rest with
      | .error (fault, count) => .error ⟨"utf-8", pos, (b :: rest).take count, fault.reason⟩
      | .ok (n, used) =>
        (lenientUtf8 (pos + 1 + used) (rest.drop used)).map (.char (Char.ofNat n) :: ·)
termination_by bs => bs.length

/-- The code points of a document whose byte order mark has this length. The positions of UTF-8
count from the mark's end, those of the other encodings from its beginning. -/
def decode (encoding : Encoding) (mark : Nat) (bs : Bytes) : Except DecodeFault (List CodePoint) :=
  let body := bs.drop mark
  match encoding with
  | .utf8 => lenientUtf8 0 body
  | .utf16 bigEndian =>
    match pairs bigEndian mark body with
    | .ok units => .ok (joinUnits units)
    | .error (pos, left) => .error ⟨name (.utf16 bigEndian), pos, left, "truncated data"⟩
  | .utf32 bigEndian => quads bigEndian mark body

end Encoding

/-- The code points of a document in whatever encoding it is in. -/
def decodeDocument (bs : Bytes) : Except DecodeFault (List CodePoint) :=
  let (encoding, mark) := Encoding.detect bs
  encoding.decode mark bs

end SessionGate.Text
