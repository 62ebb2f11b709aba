import SessionGate.Json
import SessionGate.Text.CodeUnit
import SessionGate.Text.Digits

/-!
# Reading JSON text

The reader works on the list of code points that are left. A failure keeps those that were left
where it was noticed, so a position is never threaded through the parser: it is the length of the
text less the length of that rest. Surrogates on their own are read inside strings, where they are
kept, whether they stand there themselves or by their escapes.

## What is read beyond the standard

`NaN`, `Infinity` and `-Infinity` are numbers, a name written twice keeps its last value, and a
integer of more digits than `Text.digitLimit` is refused. Blanks are the four of the standard.

## How deep is read

Lists and objects may stand inside each other up to `depthLimit`. One more is a failure where it
begins, whatever follows.
-/

namespace SessionGate

inductive JsonFaultKind where
  | byteOrderMark
  | value
  | propertyName
  | colon
  | comma
  | unterminated
  | controlCharacter
  | escape
  | unicodeEscape
  | extraData
  | tooManyDigits (count : Nat)
  | tooDeep
  deriving DecidableEq, Repr

/-- A failure to read, with what was left where it was noticed. -/
structure JsonFault where
  kind : JsonFaultKind
  rest : List CodePoint
  deriving Repr

namespace Json

open Text

def fail {α : Type} (kind : JsonFaultKind) (rest : List CodePoint) :
    Except JsonFault α :=
  .error ⟨kind, rest⟩

/-! ## Blanks and words -/

/-- Space, tab, line feed and carriage return. -/
def isBlank (c : Char) : Bool :=
  c == ' ' || c == '\t' || c == '\n' || c == '\r'

def skipBlanks (ps : List CodePoint) : List CodePoint :=
  ps.dropWhile fun p ↦ p.char?.any isBlank

/-- What follows a word the text begins with. -/
def afterWord? : List Char → List Char → Option (List Char)
  | [], cs => some cs
  | w :: ws, c :: cs => if w = c then afterWord? ws cs else none
  | _ :: _, [] => none

/-! ## Strings -/

/-- The number of four hexadecimal digits. -/
def hex4? (a b c d : CodePoint) : Option Nat := do
  let digit (p : CodePoint) : Option Nat := p.char?.bind hexDigit?
  return (((← digit a) * 16 + (← digit b)) * 16 + (← digit c)) * 16 + (← digit d)

/-- The character of a one-letter escape. -/
def shortEscape? : Char → Option Char
  | '"' => some '"'
  | '\\' => some '\\'
  | '/' => some '/'
  | 'b' => some '\x08'
  | 'f' => some '\x0c'
  | 'n' => some '\n'
  | 'r' => some '\r'
  | 't' => some '\t'
  | _ => none

/-- The code point of the code unit `unit`, and how many of the code points after its escape belong
to it: a high surrogate takes the escape of a low one along. -/
def completeUnit (unit : Nat) (after : List CodePoint) : Except JsonFault (CodePoint × Nat) :=
  match isHighSurrogate unit, after with
  | true, .char '\\' :: .char 'u' :: a :: b :: c :: d :: x :: rest =>
    match hex4? a b c d with
    | none => fail .unicodeEscape (.char 'u' :: a :: b :: c :: d :: x :: rest)
    | some low =>
      if isLowSurrogate low then .ok (.char (joinSurrogates unit low), 6)
      else .ok (.ofNat unit, 0)
  | _, _ => .ok (.ofNat unit, 0)

/-- The body of a string up to its closing quote, and what follows. `opening` is the text from the
opening quote on, where a string without end is reported. The four digits of a code unit need one
more code point after them, since a string must still be closed there. -/
def stringBody (opening : List CodePoint) :
    List CodePoint → Except JsonFault (List CodePoint × List CodePoint)
  | [] => fail .unterminated opening
  | .char '"' :: rest => .ok ([], rest)
  | [.char '\\'] => fail .unterminated opening
  | .char '\\' :: .char 'u' :: a :: b :: c :: d :: x :: rest =>
    match hex4? a b c d with
    | none => fail .unicodeEscape (.char 'u' :: a :: b :: c :: d :: x :: rest)
    | some unit => do
      let (p, used) ← completeUnit unit (x :: rest)
      let (ps, after) ← stringBody opening ((x :: rest).drop used)
      return (p :: ps, after)
  | .char '\\' :: .char 'u' :: rest => fail .unicodeEscape (.char 'u' :: rest)
  | .char '\\' :: p :: rest =>
    match p.char?.bind shortEscape? with
    | some e => do
      let (ps, after) ← stringBody opening rest
      return (.char e :: ps, after)
    | none => fail .escape (.char '\\' :: p :: rest)
  | p :: rest =>
    if p.toNat < 0x20 then fail .controlCharacter (p :: rest)
    else do
      let (ps, after) ← stringBody opening rest
      return (p :: ps, after)
termination_by ps => ps.length

/-! ## Numbers -/

/-- The whole part of a number: a zero, or digits that do not begin with one. -/
def wholePart? (cs : List Char) : Option (List Char × List Char) :=
  match cs with
  | '0' :: rest => some (['0'], rest)
  | _ =>
    match spanDigits cs with
    | ([], _) => none
    | (ds, rest) => some (ds, rest)

/-- The digits of a fraction; a point without digits is no part of the number. -/
def fractionPart (cs : List Char) : List Char × List Char :=
  match cs with
  | '.' :: rest =>
    match spanDigits rest with
    | ([], _) => ([], cs)
    | (ds, after) => (ds, after)
  | _ => ([], cs)

/-- The exponent after `e`, if it has digits. -/
def exponentPart (cs : List Char) : Option Int × List Char :=
  let digits (negative : Bool) (rest : List Char) :=
    match spanDigits rest with
    | ([], _) => (none, cs)
    | (ds, after) =>
      let n : Int := digitsValue ds
      (some (if negative then -n else n), after)
  match cs with
  | e :: '-' :: rest => if e = 'e' ∨ e = 'E' then digits true rest else (none, cs)
  | e :: '+' :: rest => if e = 'e' ∨ e = 'E' then digits false rest else (none, cs)
  | e :: rest => if e = 'e' ∨ e = 'E' then digits false rest else (none, cs)
  | [] => (none, cs)

/-- A number with its sign already read, and what follows it. -/
def unsignedNumber (negative : Bool) (cs : List Char) :
    Except JsonFaultKind (Json × List Char) :=
  match wholePart? cs with
  | none => .error .value
  | some (whole, afterWhole) =>
    let (fraction, afterFraction) := fractionPart afterWhole
    let (exponent, after) := exponentPart afterFraction
    if fraction.isEmpty && exponent.isNone then
      if Text.digitLimit < whole.length then .error (.tooManyDigits whole.length)
      else
        let n : Int := digitsValue whole
        .ok (.int (if negative then -n else n), after)
    else
      let e := exponent.getD 0 - fraction.length
      .ok (.float (Binary64.ofDecimal negative (digitsValue (whole ++ fraction)) e), after)

def number (cs : List Char) : Except JsonFaultKind (Json × List Char) :=
  match cs with
  | '-' :: rest => unsignedNumber true rest
  | _ => unsignedNumber false cs

/-! ## Values -/

def wordValues : List (String × Json) :=
  [("null", .null), ("true", .bool true), ("false", .bool false), ("NaN", .float .nan),
    ("Infinity", .float (.infinite false)), ("-Infinity", .float (.infinite true))]

/-- The value of the word a text begins with, and what follows it. -/
def word? (cs : List Char) : Option (Json × List Char) :=
  wordValues.findSome? fun (w, v) ↦ (afterWord? w.toList cs).map (v, ·)

/-- A word or a number. There are only characters in either, so the text up to the first surrogate
is all there is to look at. -/
def scalar (ps : List CodePoint) : Except JsonFault (Json × List CodePoint) :=
  let (cs, others) := CodePoint.spanChars ps
  match (word? cs).elim (number cs) .ok with
  | .ok (v, rest) => .ok (v, CodePoint.ofChars rest ++ others)
  | .error kind => fail kind ps

/-- The lists and objects that may stand inside each other. No program names this bound: it stands
for what is left of the interpreter's recursion limit of 1000 frames where documents are read and
written here. -/
def depthLimit : Nat := 970

mutual

/-- A value. `fuel` bounds the depth of nesting and the length of lists together, and `room` counts
the levels of nesting that are left. -/
def value : Nat → Nat → List CodePoint → Except JsonFault (Json × List CodePoint)
  | 0, _, ps => fail .value ps
  | fuel + 1, room, ps =>
    match ps, room with
    | [], _ => fail .value ps
    | .char '"' :: rest, _ => do
      let (s, after) ← stringBody ps rest
      return (.str (.ofPoints s), after)
    | .char '[' :: _, 0 => fail .tooDeep ps
    | .char '[' :: rest, room + 1 =>
      match skipBlanks rest with
      | .char ']' :: after => .ok (.arr [], after)
      | first => do
        let (xs, after) ← items fuel room first
        return (.arr xs, after)
    | .char '\x7b' :: _, 0 => fail .tooDeep ps
    | .char '\x7b' :: rest, room + 1 =>
      match skipBlanks rest with
      | .char '\x7d' :: after => .ok (.obj [], after)
      | first => do
        let (ms, after) ← members fuel room first
        return (.obj (Members.ofList ms), after)
    | _, _ => scalar ps

/-- The items of a list that is not empty, up to its closing bracket. -/
def items : Nat → Nat → List CodePoint → Except JsonFault (List Json × List CodePoint)
  | 0, _, ps => fail .value ps
  | fuel + 1, room, ps => do
    let (x, after) ← value fuel room ps
    match skipBlanks after with
    | .char ']' :: rest => return ([x], rest)
    | .char ',' :: rest =>
      let (xs, last) ← items fuel room (skipBlanks rest)
      return (x :: xs, last)
    | other => fail .comma other

/-- The members of an object that is not empty, up to its closing brace. -/
def members : Nat → Nat → List CodePoint → Except JsonFault (List (Text × Json) × List CodePoint)
  | 0, _, ps => fail .value ps
  | fuel + 1, room, ps =>
    match ps with
    | .char '"' :: body => do
      let (name, afterName) ← stringBody ps body
      match skipBlanks afterName with
      | .char ':' :: rest =>
        let (v, afterValue) ← value fuel room (skipBlanks rest)
        match skipBlanks afterValue with
        | .char '\x7d' :: last => return ([(Text.ofPoints name, v)], last)
        | .char ',' :: more =>
          let (ms, last) ← members fuel room (skipBlanks more)
          return ((Text.ofPoints name, v) :: ms, last)
        | other => fail .comma other
      | other => fail .colon other
    | other => fail .propertyName other

end

/-! ## Documents -/

/-- Decoded code points as one value with blanks around it. Twice the length is fuel enough: every
level of nesting and every further item takes at least one of them. -/
def document (ps : List CodePoint) : Except JsonFault Json := do
  let (v, after) ← value (2 * ps.length + 1) depthLimit (skipBlanks ps)
  match skipBlanks after with
  | [] => return v
  | rest => .error ⟨.extraData, rest⟩

/-- Code points as a document. Decoding leaves a byte order mark out, so that a text which begins
with one was not decoded as it should have been. -/
def ofPoints (ps : List CodePoint) : Except JsonFault Json :=
  match ps with
  | .char '\uFEFF' :: _ => .error ⟨.byteOrderMark, ps⟩
  | _ => document ps

def read (text : String) : Except JsonFault Json :=
  ofPoints (CodePoint.ofChars text.toList)

end Json

/-! ## Reporting -/

namespace JsonFault

def describe : JsonFaultKind → String
  | .byteOrderMark => "Unexpected UTF-8 BOM (decode using utf-8-sig)"
  | .value => "Expecting value"
  | .propertyName => "Expecting property name enclosed in double quotes"
  | .colon => "Expecting ':' delimiter"
  | .comma => "Expecting ',' delimiter"
  | .unterminated => "Unterminated string starting at"
  | .controlCharacter => "Invalid control character at"
  | .escape => "Invalid \\escape"
  | .unicodeEscape => "Invalid \\uXXXX escape"
  | .extraData => "Extra data"
  | .tooManyDigits count =>
    s!"Exceeds the limit ({Text.digitLimit} digits) for integer string conversion: " ++
      s!"value has {count} digits; use sys.set_int_max_str_digits() to increase the limit"
  | .tooDeep => "Too many levels of nesting"

/-- Whether the failure is one of syntax, which is reported with its place. -/
def isSyntax (f : JsonFault) : Bool :=
  match f.kind with
  | .tooManyDigits _ => false
  | .tooDeep => false
  | _ => true

/-- The number of code points before the place of the failure. -/
def position (text : List CodePoint) (f : JsonFault) : Nat :=
  text.length - f.rest.length

/-- The wording of a failure to read `text`: lines and columns count from one. -/
def message (text : List CodePoint) (f : JsonFault) : String :=
  if f.isSyntax then
    let pos := f.position text
    let before := text.take pos
    let line := before.count (.char '\n') + 1
    let column := (before.reverse.takeWhile (· != .char '\n')).length + 1
    s!"{describe f.kind}: line {line} column {column} (char {pos})"
  else describe f.kind

end JsonFault

end SessionGate
