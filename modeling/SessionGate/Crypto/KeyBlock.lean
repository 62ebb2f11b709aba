import SessionGate.Base64
import SessionGate.Text.Blank
import SessionGate.Text.Parts

/-!
# Blocks in key files

A key file is a text in which stand blocks: base64 in lines between a mark that begins the block and
one that ends it, both of which name what is inside. What stands around the blocks does not matter,
but each of them has to be well formed. Lines with a colon may stand in front of the base64, with an
empty line after them.
-/

namespace SessionGate.KeyBlock

open Text

/-- A block: what it is said to be, the lines before its content, and the content. -/
structure Block where
  name : List Char
  headers : List (List Char)
  content : Bytes
  deriving Repr

/-! ## Marks -/

/-- What stands before the first place where a text has these words, and what follows them. -/
def cutAt? (words : List Char) : List Char → Option (List Char × List Char)
  | [] => if words.isEmpty then some ([], []) else none
  | c :: cs =>
    if words.isPrefixOf (c :: cs) then some ([], (c :: cs).drop words.length)
    else (cutAt? words cs).map fun (before, after) ↦ (c :: before, after)

def skipBlanks (cs : List Char) : List Char :=
  cs.dropWhile fun c ↦ c == ' ' || c == '\t' || c == '\n' || c == '\r'

/-- A block as it stands in the text: the names in its two marks, and what is between them. -/
structure Framed where
  name : List Char
  body : List Char
  endName : List Char

def dashes : List Char := "-----".toList

/-- The first block of a text, and what follows it. -/
def framed? (cs : List Char) : Option (Framed × List Char) := do
  let (_, cs) ← cutAt? (dashes ++ "BEGIN ".toList) cs
  let (name, cs) ← cutAt? dashes cs
  let (body, cs) ← cutAt? (dashes ++ "END ".toList) (skipBlanks cs)
  let (endName, cs) ← cutAt? dashes cs
  return (⟨name, body, endName⟩, cs)

/-- The blocks of a text in which at most `fuel` of them are looked for. -/
def framedFrom : Nat → List Char → List Framed
  | 0, _ => []
  | fuel + 1, cs =>
    match framed? cs with
    | some (block, rest) => block :: framedFrom fuel rest
    | none => []

/-! ## Content -/

/-- The lines of a text without the blanks at their ends. -/
def linesOf (cs : List Char) : List (List Char) :=
  (splitOn '\n' cs).map fun line ↦ (line.reverse.dropWhile isPlainBlank).reverse

/-- The lines before an empty line, and what follows it; without an empty line there are none. -/
def splitHeaders (body : List Char) : List Char × List Char :=
  ((cutAt? ['\n', '\n'] body).orElse fun _ ↦ cutAt? ['\r', '\n', '\r', '\n'] body).getD ([], body)

/-- The block, if it is well formed. -/
def Framed.block? (f : Framed) : Option Block := do
  let (before, data) := splitHeaders f.body
  let headers := (linesOf before).filter (!·.isEmpty)
  let content ← Base64.decodeStandard? ((linesOf data).flatten.flatMap charBytes)
  if f.name.isEmpty || f.name != f.endName || !headers.all (·.contains ':') then none
  else return ⟨f.name, headers, content⟩

/-- The blocks of a text, if all of them are well formed. -/
def ofText? (text : String) : Option (List Block) :=
  (framedFrom text.length text.toList).mapM Framed.block?

end SessionGate.KeyBlock
