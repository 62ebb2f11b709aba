import SessionGate.Text.Digits

/-!
# UTF-8

`encodeUtf8` writes characters as bytes and `decodeUtf8` reads them back. Reading refuses what no
character is written as: lone continuation bytes, overlong forms, surrogates and bytes that stop
short. The fault names the bytes that were refused and where they stand.
-/

namespace SessionGate.Text

abbrev Bytes := List UInt8

/-! ## Faults -/

/-- Bytes that stand for no character. -/
structure DecodeFault where
  encoding : String
  position : Nat
  bytes : Bytes
  reason : String
  deriving DecidableEq, Repr

/-- A byte as two hexadecimal digits. -/
def hexByte (b : UInt8) : String :=
  String.ofList (hexDigits 2 b.toNat)

def DecodeFault.message (f : DecodeFault) : String :=
  match f.bytes with
  | [b] =>
    s!"'{f.encoding}' codec can't decode byte 0x{hexByte b} in position {f.position}: {f.reason}"
  | bs =>
    let last := f.position + bs.length - 1
    s!"'{f.encoding}' codec can't decode bytes in position {f.position}-{last}: {f.reason}"

/-! ## Writing -/

def charBytes (c : Char) : Bytes :=
  let n := c.toNat
  if n < 0x80 then [n.toUInt8]
  else if n < 0x800 then [(0xC0 + n / 64).toUInt8, (0x80 + n % 64).toUInt8]
  else if n < 0x10000 then
    [(0xE0 + n / 4096).toUInt8, (0x80 + n / 64 % 64).toUInt8, (0x80 + n % 64).toUInt8]
  else
    [(0xF0 + n / 262144).toUInt8, (0x80 + n / 4096 % 64).toUInt8, (0x80 + n / 64 % 64).toUInt8,
      (0x80 + n % 64).toUInt8]

def encodeUtf8 (cs : List Char) : Bytes :=
  cs.flatMap charBytes

def utf8 (s : String) : Bytes :=
  encodeUtf8 s.toList

/-! ## Reading -/

inductive SequenceFault where
  | start
  | continuation
  | truncated
  deriving DecidableEq, Repr

def SequenceFault.reason : SequenceFault → String
  | .start => "invalid start byte"
  | .continuation => "invalid continuation byte"
  | .truncated => "unexpected end of data"

def isContinuation (b : UInt8) : Bool := 0x80 ≤ b && b < 0xC0

/-- Whether the second byte may follow the first: overlong forms, surrogates and code points past
the last one are excluded here. -/
def mayFollow (first second : UInt8) : Bool :=
  isContinuation second &&
    !(first == 0xE0 && second < 0xA0) && !(first == 0xED && 0xA0 ≤ second) &&
    !(first == 0xF0 && second < 0x90) && !(first == 0xF4 && 0x90 ≤ second)

/-- The number of continuation bytes a first byte asks for. -/
def continuationCount? (b : UInt8) : Option Nat :=
  if b < 0x80 then some 0
  else if b < 0xC2 then none
  else if b < 0xE0 then some 1
  else if b < 0xF0 then some 2
  else if b < 0xF5 then some 3
  else none

/-- The six bits of a continuation byte below those read so far. -/
def pushBits (acc : Nat) (b : UInt8) : Nat :=
  acc * 64 + (b.toNat - 0x80)

/-- The bits a first byte with that many continuation bytes holds. -/
def leadBits (b : UInt8) : Nat → Nat
  | 0 => b.toNat
  | 1 => b.toNat - 0xC0
  | 2 => b.toNat - 0xE0
  | _ => b.toNat - 0xF0

/-- Reads `count` continuation bytes; a fault comes with the number of bytes accepted so far. -/
def continuations (acc : Nat) : Nat → Nat → Bytes → Except (SequenceFault × Nat) Nat
  | _, 0, _ => .ok acc
  | done, _ + 1, [] => .error (.truncated, done)
  | done, count + 1, b :: rest =>
    if isContinuation b then continuations (pushBits acc b) (done + 1) count rest
    else .error (.continuation, done)

/-- The code point that begins with the byte `b`, and the number of bytes after it that belong to
it; a fault comes with the number of bytes to blame. -/
def sequence (b : UInt8) (rest : Bytes) : Except (SequenceFault × Nat) (Nat × Nat) :=
  match continuationCount? b with
  | none => .error (.start, 1)
  | some 0 => .ok (b.toNat, 0)
  | some count =>
    match rest with
    | [] => .error (.truncated, 1)
    | second :: _ =>
      if mayFollow b second then
        (continuations (leadBits b count) 1 count rest).map (·, count)
      else .error (.continuation, 1)

/-- The code units from position `pos` on. -/
def decodeUtf8From (pos : Nat) : Bytes → Except DecodeFault (List Char)
  | [] => .ok []
  | b :: rest =>
    match sequence b rest with
    | .error (fault, count) => .error ⟨"utf-8", pos, (b :: rest).take count, fault.reason⟩
    | .ok (n, used) =>
      (decodeUtf8From (pos + 1 + used) (rest.drop used)).map (Char.ofNat n :: ·)
termination_by bs => bs.length

def decodeUtf8 (bs : Bytes) : Except DecodeFault (List Char) :=
  decodeUtf8From 0 bs

/-- The characters of the bytes, with one replacement character for each run of bytes that would be
refused. -/
def repairUtf8 : Bytes → List Char
  | [] => []
  | b :: rest =>
    match sequence b rest with
    | .error (_, count) => '\uFFFD' :: repairUtf8 (rest.drop (count - 1))
    | .ok (n, used) => Char.ofNat n :: repairUtf8 (rest.drop used)
termination_by bs => bs.length

end SessionGate.Text
