import SessionGate.Binary64.Fixed
import SessionGate.Failure

/-!
# Templates

A template is a text with places for values. A place begins with a percent sign and ends with a
letter that says how the value is written; between them may stand a name in parentheses, flags, a
width and a precision. Two percent signs stand for one. `Template.fill` puts values in.

## Where values come from

A place with a name takes its value from an object, and a place without one takes what was given as
a whole. What has been taken cannot be taken again, but the value of a name is given anew by every
place that names it. An object or a list may be left over, a text may not.
-/

namespace SessionGate.Template

open Text

/-! ## Values -/

structure Supply where
  /-- The object or the list that names refer to. -/
  named : Option Json
  next : Option Json

namespace Supply

/-- What is given at the beginning. -/
def ofJson (v : Json) : Supply :=
  match v with
  | .obj _ => ⟨some v, some v⟩
  | .arr _ => ⟨some v, some v⟩
  | _ => ⟨none, some v⟩

def take (s : Supply) : Except Defect (Json × Supply) :=
  match s.next with
  | some v => .ok (v, { s with next := none })
  | none => .error .wrongType

/-- Gives the value of a name. -/
def choose (s : Supply) (name : Text) : Except Defect Supply :=
  match s.named with
  | some (.obj ms) =>
    match Members.get? ms name with
    | some v => .ok { s with next := some v }
    | none => .error .missingName
  | _ => .error .wrongType

/-- Whether something is left over that must not be. -/
def isLeftOver (s : Supply) : Bool :=
  s.named.isNone && s.next.isSome

end Supply

/-! ## Places -/

/-- How a value is written. -/
structure Layout where
  isLeft : Bool := false
  hasPlus : Bool := false
  hasBlank : Bool := false
  isFull : Bool := false
  hasZeros : Bool := false
  width : Nat := 0
  precision : Option Nat := none
  letter : CodePoint

def flags : List CodePoint := CodePoint.ofChars ['-', '+', ' ', '#', '0']

/-- The name in parentheses, which may hold parentheses in pairs, and the rest after it; `depth`
parentheses are open. -/
def spanName? : Nat → List CodePoint → Option (List CodePoint × List CodePoint)
  | _, [] => none
  | depth, .char ')' :: rest =>
    match depth with
    | 0 => some ([], rest)
    | depth + 1 => (spanName? depth rest).map fun (name, after) ↦ (.char ')' :: name, after)
  | depth, p :: rest =>
    (spanName? (if p = .char '(' then depth + 1 else depth) rest).map fun (name, after) ↦
      (p :: name, after)

/-- The integer that stands for an asterisk. -/
def takeCount (s : Supply) : Except Defect (Int × Supply) := do
  let (v, s) ← s.take
  match v with
  | .int n => if n.natAbs < Nat.pow 2 63 then return (n, s) else .error .tooLarge
  | .bool b => return (if b then 1 else 0, s)
  | _ => .error .wrongType

/-- A number or an asterisk, none for neither, and the rest. A number of more than `limit` is not
read. -/
def count (limit : Nat) (ps : List CodePoint) (s : Supply) :
    Except Defect (Option Int × List CodePoint × Supply) :=
  let (cs, others) := CodePoint.spanChars ps
  match ps, spanDigits cs with
  | .char '*' :: rest, _ => do
    let (n, s) ← takeCount s
    return (some n, rest, s)
  | _, ([], _) => .ok (none, ps, s)
  | _, (digits, rest) =>
    let n := digitsValue digits
    if n ≤ limit then .ok (some n, CodePoint.ofChars rest ++ others, s) else .error .badTemplate

/-- The precision after a point; a point alone is a precision of zero, and so is a negative one. -/
def precision (ps : List CodePoint) (s : Supply) :
    Except Defect (Option Nat × List CodePoint × Supply) :=
  match ps with
  | .char '.' :: rest => do
    let (n, rest, s) ← count (Nat.pow 2 31 - 1) rest s
    return (some (n.getD 0).toNat, rest, s)
  | _ => .ok (none, ps, s)

/-- A letter for the size of a number says nothing. -/
def dropSize (ps : List CodePoint) : List CodePoint :=
  if ps.head?.any (CodePoint.ofChars ['h', 'l', 'L']).contains then ps.drop 1 else ps

/-- The layout after a percent sign, the rest, and what is left to be taken. -/
def layout (ps : List CodePoint) (s : Supply) :
    Except Defect (Layout × List CodePoint × Supply) := do
  let (ps, s) ←
    match ps with
    | .char '(' :: rest =>
      if s.named.isNone then .error .wrongType
      else
        match spanName? 0 rest with
        | none => .error .badTemplate
        | some (name, rest) => (s.choose (.ofPoints name)).map (rest, ·)
    | ps => .ok (ps, s)
  let given := ps.takeWhile flags.contains
  let (width, ps, s) ← count (Nat.pow 2 63 - 1) (ps.drop given.length) s
  let width := width.getD 0
  let (precision, ps, s) ← precision ps s
  match dropSize ps with
  | [] => .error .badTemplate
  | letter :: rest =>
    return (
      { isLeft := given.contains (.char '-') || decide (width < 0)
        hasPlus := given.contains (.char '+')
        hasBlank := given.contains (.char ' ')
        isFull := given.contains (.char '#')
        hasZeros := given.contains (.char '0')
        width := width.natAbs
        precision, letter }, rest, s)

/-! ## Writing -/

/-- What is written of a value: a sign, a marker of the base, and the rest; only a number has a
sign. -/
structure Written where
  isNumber : Bool := false
  sign : List CodePoint := []
  marker : List CodePoint := []
  body : List CodePoint

/-- The sign of a number: a plus or a blank only if they are wanted. -/
def Layout.sign (l : Layout) (isNegative : Bool) : List CodePoint :=
  if isNegative then [.char '-']
  else if l.hasPlus then [.char '+']
  else if l.hasBlank then [.char ' ']
  else []

/-- A value in words: a text without quotes for `s`, a literal for `r`, and one in ASCII for `a`. -/
def Layout.words (l : Layout) (v : Json) : Written :=
  let ps :=
    match l.letter with
    | .char 's' => v.display.points
    | .char 'r' => CodePoint.ofChars v.literalChars
    | _ =>
      CodePoint.ofChars <|
        v.literalChars.flatMap fun c ↦ if c.toNat < 128 then [c] else escapeCode c.toNat
  { body := (l.precision.map ps.take).getD ps }

/-- The integer to be written; a number loses its fraction, but not for a base of its own. -/
def integer (isDecimal : Bool) : Json → Except Defect Int
  | .int n => .ok n
  | .bool b => .ok (if b then 1 else 0)
  | .float x =>
    if !isDecimal then .error .wrongType
    else
      match x.truncate? with
      | some n => .ok n
      | none => .error (.badInteger (if x = .nan then .notANumber else .infinite))
  | _ => .error .wrongType

/-- An integer to a base. -/
def Layout.digits (l : Layout) (base : Nat) (v : Json) : Except Defect Written := do
  let n ← integer (base == 10) v
  let ds := Nat.toDigits base n.natAbs
  let ds := List.replicate (l.precision.getD 0 - ds.length) '0' ++ ds
  return {
    isNumber := true
    sign := l.sign (n < 0)
    marker := if l.isFull ∧ base ≠ 10 then [.char '0', l.letter] else []
    body := CodePoint.ofChars (if l.letter = .char 'X' then ds.map Char.toUpper else ds) }

/-- The number to be written with a point. -/
def double : Json → Except Defect Binary64
  | .float x => .ok x
  | .int n => if (Binary64.ofInt n).isFinite then .ok (.ofInt n) else .error .tooLarge
  | .bool b => .ok (.ofNat (if b then 1 else 0))
  | _ => .error .wrongType

def Layout.point (l : Layout) (form : Binary64.Form) (v : Json) : Except Defect Written := do
  let cs := (← double v).toText form (l.precision.getD 6) l.isFull
  let isNegative := cs.head? = some '-'
  let digits := if isNegative then cs.drop 1 else cs
  let body := if l.letter.char?.any Char.isUpper then digits.map Char.toUpper else digits
  return { isNumber := true, sign := l.sign isNegative, body := CodePoint.ofChars body }

/-- A text of one code point, or the code point of a number. -/
def character : Json → Except Defect Written
  | .str s =>
    match s.points with
    | [p] => .ok { body := [p] }
    | _ => .error .wrongType
  | .int n => code n
  | .bool b => code (if b then 1 else 0)
  | _ => .error .wrongType
where
  code (n : Int) : Except Defect Written :=
    if 0 ≤ n ∧ n < 0x110000 then .ok { body := [.ofNat n.toNat] } else .error .tooLarge

/-- What is written of a value by its letter. -/
def Layout.write (l : Layout) (v : Json) : Except Defect Written :=
  match l.letter.char? with
  | some 's' | some 'r' | some 'a' => .ok (l.words v)
  | some 'd' | some 'i' | some 'u' => l.digits 10 v
  | some 'o' => l.digits 8 v
  | some 'x' | some 'X' => l.digits 16 v
  | some 'e' | some 'E' => l.point .scientific v
  | some 'f' | some 'F' => l.point .fixed v
  | some 'g' | some 'G' => l.point .general v
  | some 'c' => character v
  | _ => .error .badTemplate

/-- Fills up to the width: blanks on the right, zeros after the sign of a number, or blanks on the
left. -/
def Layout.pad (l : Layout) (w : Written) : List CodePoint :=
  let front := w.sign ++ w.marker
  let room := l.width - (front.length + w.body.length)
  if l.isLeft then front ++ w.body ++ List.replicate room (.char ' ')
  else if w.isNumber && l.hasZeros then front ++ List.replicate room (.char '0') ++ w.body
  else List.replicate room (.char ' ') ++ front ++ w.body

/-! ## Filling -/

/-- The code points of a template with the values in their places, for at most `fuel` of them. -/
def fillFrom : Nat → Supply → List CodePoint → Except Defect (List CodePoint)
  | 0, _, _ => .ok []
  | _, s, [] => if s.isLeftOver then .error .wrongType else .ok []
  | fuel + 1, s, .char '%' :: .char '%' :: ps => do
    return .char '%' :: (← fillFrom fuel s ps)
  | fuel + 1, s, .char '%' :: ps => do
    let (l, rest, s) ← layout ps s
    let (v, s) ← s.take
    let text := l.pad (← l.write v)
    return text ++ (← fillFrom fuel s rest)
  | fuel + 1, s, p :: ps => do
    return p :: (← fillFrom fuel s ps)

/-- A template with a value, or the members of one, in its places. -/
def fill (template : Text) (v : Json) : Except Defect Text :=
  let ps := template.points
  (fillFrom (ps.length + 1) (.ofJson v) ps).map Text.ofPoints

end SessionGate.Template
