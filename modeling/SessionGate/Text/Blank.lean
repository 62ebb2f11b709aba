import SessionGate.Text

/-!
# Blanks and decimal digits of every script

Settings, numbers and tokens arrive as text that people may have typed, so blanks and digits are
those of the whole character set, not of ASCII alone. `isSpace` and `digit?` decide on two small
tables; `trim` removes the blanks at both ends.
-/

namespace SessionGate.Text

/-- The blanks: separators, line ends and the four information separators. -/
def spaces : List CodeRange := [
  (0x9, 0xd), (0x1c, 0x20), (0x85, 0x85), (0xa0, 0xa0), (0x1680, 0x1680), (0x2000, 0x200a),
  (0x2028, 0x2029), (0x202f, 0x202f), (0x205f, 0x205f), (0x3000, 0x3000)]

/-- The zeros of the decimal digits; each is followed by its digits one to nine. -/
def zeros : List Nat := [
  0x30, 0x660, 0x6f0, 0x7c0, 0x966, 0x9e6, 0xa66, 0xae6, 0xb66, 0xbe6, 0xc66, 0xce6, 0xd66, 0xde6,
  0xe50, 0xed0, 0xf20, 0x1040, 0x1090, 0x17e0, 0x1810, 0x1946, 0x19d0, 0x1a80, 0x1a90, 0x1b50,
  0x1bb0, 0x1c40, 0x1c50, 0xa620, 0xa8d0, 0xa900, 0xa9d0, 0xa9f0, 0xaa50, 0xabf0, 0xff10, 0x104a0,
  0x10d30, 0x11066, 0x110f0, 0x11136, 0x111d0, 0x112f0, 0x11450, 0x114d0, 0x11650, 0x116c0,
  0x11730, 0x118e0, 0x11950, 0x11c50, 0x11d50, 0x11da0, 0x16a60, 0x16ac0, 0x16b50, 0x1d7ce,
  0x1d7d8, 0x1d7e2, 0x1d7ec, 0x1d7f6, 0x1e140, 0x1e2f0, 0x1e950, 0x1fbf0]

def isSpace (c : Char) : Bool :=
  spaces.any (·.has c)

/-- The blanks without the information separators. -/
def isPlainBlank (c : Char) : Bool :=
  isSpace c && !(0x1c ≤ c.toNat && c.toNat ≤ 0x1f)

/-- The value of a decimal digit of any script. -/
def digit? (c : Char) : Option Nat :=
  (zeros.find? fun z ↦ z ≤ c.toNat && c.toNat < z + 10).map (c.toNat - ·)

/-- A list without the blanks at both ends. -/
def trimBy {α : Type} (isBlank : α → Bool) (xs : List α) : List α :=
  ((xs.dropWhile isBlank).reverse.dropWhile isBlank).reverse

def trimChars (cs : List Char) : List Char :=
  trimBy isSpace cs

/-- Whether a code point is a blank; a surrogate is none. -/
def isSpacePoint (p : CodePoint) : Bool :=
  p.char?.any isSpace

def trimPoints (ps : List CodePoint) : List CodePoint :=
  trimBy isSpacePoint ps

def trim (t : Text) : Text :=
  .ofPoints (trimPoints t.points)

end SessionGate.Text
