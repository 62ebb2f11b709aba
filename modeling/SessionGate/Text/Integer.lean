import SessionGate.Json
import SessionGate.Text.Blank
import SessionGate.Text.Digits
import SessionGate.Text.Literal

/-!
# Integers in text and in values

An integer may have blanks around it, a sign in front and single underscores between its digits,
and its digits may be of any script. `readInteger` accepts exactly that. `Json.toInteger` extends
it to the other values: numbers lose their fraction and truth values are zero and one.
-/

namespace SessionGate

inductive IntegerFault where
  /-- The text is no integer. -/
  | malformed (text : Text)
  /-- The text has more digits than are read. -/
  | tooManyDigits
  /-- The number is none. -/
  | notANumber
  /-- The number is infinite. -/
  | infinite
  /-- The value is neither a number nor text. -/
  | wrongType
  deriving DecidableEq, Repr

namespace Text

/-- The digits a text begins with, single underscores between them left out, and the rest;
`none` where an underscore is not followed by a digit. -/
def spanGroupedDigits : List Char → Option (List Nat × List Char)
  | [] => some ([], [])
  | '_' :: c :: rest =>
    match digit? c with
    | some d => (spanGroupedDigits rest).map fun (ds, after) ↦ (d :: ds, after)
    | none => none
  | ['_'] => none
  | c :: rest =>
    match digit? c with
    | some d => (spanGroupedDigits rest).map fun (ds, after) ↦ (d :: ds, after)
    | none => some ([], c :: rest)

/-- The integer a text of characters spells. -/
def readInteger (s : String) : Except IntegerFault Int :=
  let (negative, cs) := spanSign (s.toList.dropWhile isPlainBlank)
  let malformed : Except IntegerFault Int := .error (.malformed s)
  if cs.head? = some '_' then malformed
  else
    match spanGroupedDigits cs with
    | none => malformed
    | some ([], _) => malformed
    | some (ds, after) =>
      if digitLimit < ds.length then .error .tooManyDigits
      else if after.all isPlainBlank then
        let n : Nat := ds.foldl (fun n d ↦ 10 * n + d) 0
        .ok (if negative then -(n : Int) else n)
      else malformed

end Text

namespace Json

def toInteger : Json → Except IntegerFault Int
  | .int n => .ok n
  | .bool b => .ok (if b then 1 else 0)
  | .str (.plain s) => Text.readInteger s
  | .str (.loose t) => .error (.malformed (.loose t))
  | .float .nan => .error .notANumber
  | .float (.infinite _) => .error .infinite
  | .float x => .ok (x.truncate?.getD 0)
  | _ => .error .wrongType

end Json

end SessionGate
