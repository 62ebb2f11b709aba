import SessionGate.Url.LabelLetters
import SessionGate.Url.Punycode

/-!
# Labels of host names

A label is a part of a host name between two points. In ASCII it consists of letters, digits and
hyphens; beyond ASCII some characters are admitted only beside certain others, and letters that are
written from right to left go with their kind only. `Label.toAscii?` gives the form in which a label
is sent, if it is one.

## What is not looked at

Only the mark that directly follows a letter is tried for joining it, marks are not put in order,
and a joiner has to follow a mark that takes a vowel away.
-/

namespace SessionGate.Url.Label

open Text

/-! ## Characters in their place -/

def greek : List CodeRange := [(0x370, 0x3e1), (0x3f0, 0x3ff), (0x1f00, 0x1ffe)]

def hebrew : List CodeRange := [(0x591, 0x5c7), (0x5d0, 0x5ea), (0x5ef, 0x5f4), (0xfb1d, 0xfb4f)]

/-- Han characters and the two syllabaries. -/
def eastAsian : List CodeRange := [
  (0x3005, 0x3005), (0x3007, 0x3007), (0x3021, 0x3029), (0x3038, 0x303b), (0x3041, 0x3096),
  (0x309d, 0x309f), (0x30a1, 0x30fa), (0x30fd, 0x30ff), (0x31f0, 0x31ff), (0x3400, 0x4dbf),
  (0x4e00, 0x9fff), (0xf900, 0xfad9), (0x20000, 0x3134a)]

def arabicDigits : CodeRange := (0x660, 0x669)

def persianDigits : CodeRange := (0x6f0, 0x6f9)

def isOf (script : List CodeRange) (c : Char) : Bool :=
  script.any (·.has c)

/-- Whether a character may stand between the one before and the one after it in a label. -/
def mayStand (label : List Char) (before after : Option Char) (c : Char) : Bool :=
  match c with
  | '·' => before == some 'l' && after == some 'l'
  | '͵' => after.any (isOf greek)
  | '׳' | '״' => before.any (isOf hebrew)
  | '・' => label.any (isOf eastAsian)
  | '\u200c' | '\u200d' => before.any killsVowel
  | c =>
    if arabicDigits.has c then !label.any persianDigits.has
    else if persianDigits.has c then !label.any arabicDigits.has
    else isLetter c || isMark c

/-- Whether each character of the rest of a label may stand where it does. -/
def allMayStand (label : List Char) (before : Option Char) : List Char → Bool
  | [] => true
  | c :: rest => mayStand label before rest.head? c && allMayStand label (some c) rest

/-- Whether no mark joins the character before it. -/
def isComposed : List Char → Bool
  | a :: b :: rest => !joins a b && isComposed (b :: rest)
  | _ => true

/-- No hyphen stands at an end, and no two of them in the third and the fourth place. -/
def hyphensFit (cs : List Char) : Bool :=
  cs.head? != some '-' && cs.getLast? != some '-' && (cs.drop 2).take 2 != ['-', '-']

/-! ## Directions -/

inductive Direction where
  | leftToRight
  | rightToLeft
  | arabicNumber
  | europeanNumber
  | mark
  | neutral
  deriving DecidableEq, Repr

/-- The blocks of letters that are written from right to left. -/
def rightToLeftBlocks : List CodeRange := [
  (0x590, 0x8ff), (0xfb1d, 0xfdff), (0xfe70, 0xfeff), (0x10800, 0x10fff), (0x1e800, 0x1efff)]

/-- Letters that are written in either direction. -/
def neutralRanges : List CodeRange := [
  (0x2d, 0x2d), (0xb7, 0xb7), (0x2b9, 0x2ba), (0x2c6, 0x2cf), (0x2ec, 0x2ec), (0x375, 0x375),
  (0x200c, 0x200d), (0x2e2f, 0x2e2f), (0x30fb, 0x30fb), (0xa67f, 0xa67f), (0xa717, 0xa71f),
  (0xa788, 0xa788)]

def direction (c : Char) : Direction :=
  if isMark c then .mark
  else if c.isDigit || persianDigits.has c then .europeanNumber
  else if arabicDigits.has c || CodeRange.has (0x10d30, 0x10d39) c then .arabicNumber
  else if isOf neutralRanges c then .neutral
  else if isOf rightToLeftBlocks c then .rightToLeft
  else .leftToRight

/-- The direction a label ends in, marks aside. -/
def endsIn (directions : List Direction) : Option Direction :=
  (directions.filter (· ≠ .mark)).getLast?

/-- Whether the directions go together. A label without anything that is written from right to left
is not looked at. -/
def directionsFit (cs : List Char) : Bool :=
  let ds := cs.map direction
  if !ds.contains .rightToLeft && !ds.contains .arabicNumber then true
  else
    ds.head? == some .rightToLeft && !ds.contains .leftToRight && endsIn ds != some .neutral &&
      !(ds.contains .arabicNumber && ds.contains .europeanNumber)

/-! ## Labels -/

def isLabel (cs : List Char) : Bool :=
  !cs.isEmpty && isComposed cs && hyphensFit cs && !cs.head?.any isMark &&
    allMayStand cs none cs && directionsFit cs

/-- What the ASCII form of a label begins with if the label is not ASCII. -/
def marker : List Char := "xn--".toList

/-- The longest label. -/
def sizeLimit : Nat := 63

/-- Whether a label is in its ASCII form: a plain one, or one that was not ASCII. -/
def isAsciiForm (cs : List Char) : Bool :=
  if marker.isPrefixOf cs then
    let rest := cs.drop marker.length
    !rest.isEmpty && rest.getLast? != some '-' && (Punycode.decode? rest).any isLabel
  else isLabel cs

def toAscii? (cs : List Char) : Option (List Char) :=
  let ascii := if cs.all (·.toNat < 128) then cs else marker ++ Punycode.encode cs
  let isFit := if cs.all (·.toNat < 128) then isAsciiForm cs else isLabel cs
  if isFit && ascii.length ≤ sizeLimit then some ascii else none

end SessionGate.Url.Label
