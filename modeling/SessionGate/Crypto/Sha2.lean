import SessionGate.Text.Utf8

/-!
# The SHA-2 digests

The three digests that tokens are signed with. They differ in the width of a word, the number of
rounds, the amounts by which words are rotated and the words they start from; everything else is
stated once for words of any width. A keyed digest hashes the message together with the key twice,
the key being combined with another constant each time.

## Constants

No table is needed: the round constants are the first bits of the fractional parts of the cube
roots of the first primes, and the initial words those of square roots. Words of 32 bits take the
upper halves of the same fractions.
-/

namespace SessionGate

open Text

/-- A digest of the SHA-2 family. -/
inductive Hash where
  | sha256
  | sha384
  | sha512
  deriving DecidableEq, Repr

namespace Sha2

/-! ## Constants -/

def isPrime (n : Nat) : Bool :=
  2 ≤ n && (List.range n).all fun d ↦ d < 2 || n % d != 0

/-- The first eighty primes. -/
def primes : List Nat :=
  (List.range 410).filter isPrime

/-- The largest number of at most `bits` bits whose `k`-th power is at most `n`. -/
def floorRoot (bits k n : Nat) : Nat :=
  (List.range bits).reverse.foldl
    (fun r i ↦ if Nat.pow (r + Nat.pow 2 i) k ≤ n then r + Nat.pow 2 i else r) 0

/-- The first 64 bits of the fractional part of the `k`-th root of a number below `2 ^ 10`. -/
def rootFraction (k p : Nat) : Nat :=
  floorRoot 70 k (p * Nat.pow 2 (64 * k)) % Nat.pow 2 64

/-- The first `w` bits of the fractional part of the `k`-th root. -/
def rootWord (w k p : Nat) : BitVec w :=
  BitVec.ofNat w (rootFraction k p >>> (64 - w))

/-! ## The compression of a block -/

/-- What the digests of one word width agree on: the number of rounds, the amounts by which the
two large mixing functions rotate, and for the two small ones two rotations and a shift. -/
structure Shape where
  rounds : Nat
  large0 : Nat × Nat × Nat
  large1 : Nat × Nat × Nat
  small0 : Nat × Nat × Nat
  small1 : Nat × Nat × Nat

def shape32 : Shape := ⟨64, (2, 13, 22), (6, 11, 25), (7, 18, 3), (17, 19, 10)⟩

def shape64 : Shape := ⟨80, (28, 34, 39), (14, 18, 41), (1, 8, 7), (19, 61, 6)⟩

def mixLarge {w : Nat} (amounts : Nat × Nat × Nat) (x : BitVec w) : BitVec w :=
  x.rotateRight amounts.1 ^^^ x.rotateRight amounts.2.1 ^^^ x.rotateRight amounts.2.2

def mixSmall {w : Nat} (amounts : Nat × Nat × Nat) (x : BitVec w) : BitVec w :=
  x.rotateRight amounts.1 ^^^ x.rotateRight amounts.2.1 ^^^ (x >>> amounts.2.2)

/-- The eight working words. -/
structure State (w : Nat) where
  a : BitVec w
  b : BitVec w
  c : BitVec w
  d : BitVec w
  e : BitVec w
  f : BitVec w
  g : BitVec w
  h : BitVec w

namespace State

variable {w : Nat}

def toList (s : State w) : List (BitVec w) :=
  [s.a, s.b, s.c, s.d, s.e, s.f, s.g, s.h]

def ofList (ws : List (BitVec w)) : State w :=
  ⟨ws.getD 0 0, ws.getD 1 0, ws.getD 2 0, ws.getD 3 0, ws.getD 4 0, ws.getD 5 0, ws.getD 6 0,
    ws.getD 7 0⟩

def add (s t : State w) : State w :=
  ⟨s.a + t.a, s.b + t.b, s.c + t.c, s.d + t.d, s.e + t.e, s.f + t.f, s.g + t.g, s.h + t.h⟩

/-- One round with the sum of its constant and its word of the message. -/
def round (shape : Shape) (s : State w) (kw : BitVec w) : State w :=
  let choice := (s.e &&& s.f) ^^^ (~~~s.e &&& s.g)
  let majority := (s.a &&& s.b) ^^^ (s.a &&& s.c) ^^^ (s.b &&& s.c)
  let t := s.h + mixLarge shape.large1 s.e + choice + kw
  ⟨t + (mixLarge shape.large0 s.a + majority), s.a, s.b, s.c, s.d + t, s.e, s.f, s.g⟩

end State

/-- The window of sixteen message words moved on by one. -/
def slide {w : Nat} (shape : Shape) (ws : List (BitVec w)) : List (BitVec w) :=
  ws.drop 1 ++
    [mixSmall shape.small1 (ws.getD 14 0) + ws.getD 9 0 + mixSmall shape.small0 (ws.getD 1 0)
      + ws.getD 0 0]

def runRounds {w : Nat} (shape : Shape) : List (BitVec w) → State w → List (BitVec w) → State w
  | [], s, _ => s
  | k :: ks, s, ws => runRounds shape ks (s.round shape (k + ws.getD 0 0)) (slide shape ws)

/-- The state after a block of sixteen words. -/
def compress {w : Nat} (shape : Shape) (constants : List (BitVec w)) (s : State w)
    (block : List (BitVec w)) : State w :=
  s.add (runRounds shape constants s block)

/-! ## Messages -/

def bigEndian (count n : Nat) : Bytes :=
  (List.range count).reverse.map fun i ↦ (n / Nat.pow 256 i).toUInt8

def ofBigEndian (bs : Bytes) : Nat :=
  bs.foldl (fun n b ↦ n * 256 + b.toNat) 0

/-- The message, a one bit, zeros, and the length in bits, up to whole blocks of `block` bytes of
which the length takes an eighth. -/
def padMessage (block : Nat) (bs : Bytes) : Bytes :=
  let used := bs.length + 1 + block / 8
  bs ++ 0x80 :: List.replicate ((block - used % block) % block) 0
    ++ bigEndian (block / 8) (bs.length * 8)

def pieces {α : Type} (size : Nat) : Nat → List α → List (List α)
  | 0, _ => []
  | count + 1, xs => xs.take size :: pieces size count (xs.drop size)

def wordsOf (w : Nat) (block : Bytes) : List (BitVec w) :=
  (pieces (w / 8) 16 block).map fun bs ↦ BitVec.ofNat w (ofBigEndian bs)

/-- The bytes of the last state. -/
def digestWith (w : Nat) (shape : Shape) (constants initial : List (BitVec w)) (bs : Bytes) :
    Bytes :=
  let block := 2 * w
  let padded := padMessage block bs
  let final := (pieces block (padded.length / block) padded).foldl
    (fun s piece ↦ compress shape constants s (wordsOf w piece)) (State.ofList initial)
  final.toList.flatMap fun x ↦ bigEndian (w / 8) x.toNat

def constants32 : List (BitVec 32) := (primes.take 64).map (rootWord 32 3)

def constants64 : List (BitVec 64) := primes.map (rootWord 64 3)

def initial256 : List (BitVec 32) := (primes.take 8).map (rootWord 32 2)

def initial512 : List (BitVec 64) := (primes.take 8).map (rootWord 64 2)

def initial384 : List (BitVec 64) := ((primes.drop 8).take 8).map (rootWord 64 2)

end Sha2

namespace Hash

def digest : Hash → Bytes → Bytes
  | sha256, bs => Sha2.digestWith 32 Sha2.shape32 Sha2.constants32 Sha2.initial256 bs
  | sha384, bs =>
    (Sha2.digestWith 64 Sha2.shape64 Sha2.constants64 Sha2.initial384 bs).take 48
  | sha512, bs => Sha2.digestWith 64 Sha2.shape64 Sha2.constants64 Sha2.initial512 bs

def blockSize : Hash → Nat
  | sha256 => 64
  | _ => 128

/-- The name that is followed by the digest in a signature: the object identifier of the digest
in the encoding of the standard. -/
def identifier : Hash → Bytes
  | sha256 => [0x30, 0x31, 0x30, 0x0d, 0x06, 0x09, 0x60, 0x86, 0x48, 0x01, 0x65, 0x03, 0x04, 0x02,
      0x01, 0x05, 0x00, 0x04, 0x20]
  | sha384 => [0x30, 0x41, 0x30, 0x0d, 0x06, 0x09, 0x60, 0x86, 0x48, 0x01, 0x65, 0x03, 0x04, 0x02,
      0x02, 0x05, 0x00, 0x04, 0x30]
  | sha512 => [0x30, 0x51, 0x30, 0x0d, 0x06, 0x09, 0x60, 0x86, 0x48, 0x01, 0x65, 0x03, 0x04, 0x02,
      0x03, 0x05, 0x00, 0x04, 0x40]

/-! ## Keyed digests -/

/-- The key as a whole block; a longer one is replaced by its digest. -/
def keyBlock (h : Hash) (key : Bytes) : Bytes :=
  let key := if h.blockSize < key.length then h.digest key else key
  key ++ List.replicate (h.blockSize - key.length) 0

def hmac (h : Hash) (key message : Bytes) : Bytes :=
  let block := h.keyBlock key
  h.digest (block.map (· ^^^ 0x5c) ++ h.digest (block.map (· ^^^ 0x36) ++ message))

end Hash

end SessionGate
