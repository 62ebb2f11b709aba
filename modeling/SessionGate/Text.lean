import SessionGate.Text.CodeUnit

/-!
# Texts

What documents call a string is a list of code points, and some of them may be surrogates on their
own. Such a text can be read, compared and put together with others, but it has no bytes: wherever
it has to be sent, that fails. So the two kinds are told apart from the beginning. A text without
surrogates is a `String`, and one with at least one is a `LooseText`.
-/

namespace SessionGate

/-- A text with a surrogate in it. -/
structure LooseText where
  points : List CodePoint
  isLoose : points.any CodePoint.isLone = true
  deriving DecidableEq, Repr

inductive Text where
  | plain (s : String)
  | loose (t : LooseText)
  deriving DecidableEq, Repr

namespace Text

instance : Inhabited Text := ⟨.plain ""⟩

instance : Coe String Text := ⟨.plain⟩

def points : Text → List CodePoint
  | plain s => CodePoint.ofChars s.toList
  | loose t => t.points

def ofPoints (ps : List CodePoint) : Text :=
  if h : ps.any CodePoint.isLone = true then loose ⟨ps, h⟩
  else plain (String.ofList (ps.filterMap CodePoint.char?))

/-- The characters of a text that has no surrogates. -/
def string? : Text → Option String
  | plain s => some s
  | loose _ => none

def isPlain (t : Text) : Bool :=
  t.string?.isSome

def append : Text → Text → Text
  | plain s, plain t => plain (s ++ t)
  | s, t => ofPoints (s.points ++ t.points)

instance : Append Text := ⟨append⟩

/-- Texts are ordered by the numbers of their code points. -/
instance : LE Text where
  le s t := (s.points.map CodePoint.toNat).le (t.points.map CodePoint.toNat)

instance : DecidableLE Text :=
  fun s t ↦ List.decidableLE (s.points.map CodePoint.toNat) (t.points.map CodePoint.toNat)

end Text

end SessionGate
