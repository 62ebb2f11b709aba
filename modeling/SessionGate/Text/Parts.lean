/-!
# Parts of a text

Texts are cut at a mark: at every one, at the first or at the last. The mark itself belongs to no
part, so the parts with marks between them are the text again. A text file comes as lines, which
may end in any of three ways.
-/

namespace SessionGate.Text

variable {α : Type} [DecidableEq α]

/-- The parts between the marks; there is one more of them than marks. -/
def splitOn (mark : α) : List α → List (List α)
  | [] => [[]]
  | c :: cs =>
    if c = mark then [] :: splitOn mark cs
    else
      match splitOn mark cs with
      | [] => [[c]]
      | part :: parts => (c :: part) :: parts

/-- What stands before and after the first mark. -/
def cut? (mark : α) : List α → Option (List α × List α)
  | [] => none
  | c :: cs =>
    if c = mark then some ([], cs)
    else (cut? mark cs).map fun (before, after) ↦ (c :: before, after)

/-- What stands before and after the last mark. -/
def cutLast? (mark : α) (cs : List α) : Option (List α × List α) :=
  (cut? mark cs.reverse).map fun (after, before) ↦ (before.reverse, after.reverse)

def normalizeLines : List Char → List Char
  | [] => []
  | '\r' :: '\n' :: rest => '\n' :: normalizeLines rest
  | '\r' :: rest => '\n' :: normalizeLines rest
  | c :: rest => c :: normalizeLines rest

end SessionGate.Text
