import SessionGate.Moment
import SessionGate.Text
import SessionGate.Text.Utf8

/-!
# Moments as text

## Writing

`Moment.isoWith` writes date, separator and time; the microseconds only where there are some, and
the offset to the minute, to the second or to the microsecond as it needs.

## Reading

`Moment.readIso` reads a calendar date or a week date, in the basic or the extended form, and after
any one character a time of day with a fraction and an offset. It works on bytes, and with the byte
after the part it is reading, since a part that is followed by something is not complete: only a
time in front of an offset may be followed by anything.
-/

namespace SessionGate

open Text

inductive MomentFault where
  /-- The text has not the form of one. -/
  | malformed (text : Text)
  /-- The text has the form, but names no day, time or offset there is. -/
  | outOfRange
  deriving DecidableEq, Repr

/-! ## Writing -/

namespace Moment

/-- Two numbers of two digits with a colon between them. -/
def pairText (a b : Nat) : List Char :=
  paddedDigits 2 a ++ ':' :: paddedDigits 2 b

/-- Hours, minutes, seconds and, unless they are zero, microseconds. -/
def clockText (micros : Nat) : List Char :=
  let s := micros / microsPerSecond
  let f := micros % microsPerSecond
  pairText (s / 3600) (s / 60 % 60) ++ ':' :: paddedDigits 2 (s % 60)
    ++ (if f = 0 then [] else '.' :: paddedDigits 6 f)

/-- The offset with its sign; seconds and microseconds only as needed. -/
def offsetText (offset : Int) : List Char :=
  let micros := offset.natAbs
  let s := micros / microsPerSecond
  let f := micros % microsPerSecond
  (if offset < 0 then '-' else '+') :: pairText (s / 3600) (s / 60 % 60)
    ++ (if s % 60 = 0 ∧ f = 0 then [] else ':' :: paddedDigits 2 (s % 60))
    ++ (if f = 0 then [] else '.' :: paddedDigits 6 f)

def dateText (number : Nat) : List Char :=
  let (year, month, day) := Calendar.dateOf number
  paddedDigits 4 year ++ '-' :: paddedDigits 2 month ++ '-' :: paddedDigits 2 day

def isoChars (separator : Char) (m : Moment) : List Char :=
  dateText (m.wall / microsPerDay) ++ separator :: clockText (m.wall % microsPerDay)
    ++ (match m.offset with
      | some offset => offsetText offset
      | none => [])

def isoWith (separator : Char) (m : Moment) : String :=
  String.ofList (isoChars separator m)

/-- The text that is exchanged. -/
def iso (m : Moment) : String :=
  m.isoWith 'T'

/-- The text that is shown. -/
def shown (m : Moment) : String :=
  m.isoWith ' '

/-! ## Reading digits -/

def digitByte? (b : UInt8) : Option Nat :=
  if 48 ≤ b ∧ b ≤ 57 then some (b.toNat - 48) else none

/-- Exactly `count` digits after the number read so far, and the rest. -/
def takeDigits (acc : Nat) : Nat → Bytes → Option (Nat × Bytes)
  | 0, bs => some (acc, bs)
  | _ + 1, [] => none
  | count + 1, b :: rest => (digitByte? b).bind fun d ↦ takeDigits (acc * 10 + d) count rest

/-! ## Reading dates -/

def dash : UInt8 := 45

def letterW : UInt8 := 87

def weekDay? (year week day : Nat) : Option Nat :=
  let weekExists := (1 ≤ week && week ≤ 52) || (week == 53 && Calendar.hasWeek53 year)
  if weekExists && 1 ≤ day && day ≤ 7 then
    some (Calendar.firstMonday year + (week - 1) * 7 + (day - 1))
  else none

/-- A date as the text gives it. -/
inductive DateParts where
  | calendar (year month day : Nat)
  /-- The year of a week, and the number of the day, counted from a week before the calendar
  begins. -/
  | week (year number : Nat)

/-- The date in the first `length` bytes. -/
def dateParts? (bs : Bytes) (length : Nat) : Option DateParts := do
  let (year, afterYear) ← takeDigits 0 4 bs
  let extended := afterYear.head? == some dash
  let body := if extended then afterYear.drop 1 else afterYear
  if body.head? = some letterW then
    let (week, afterWeek) ← takeDigits 0 2 (body.drop 1)
    if bs.length - afterWeek.length < length then
      if extended ∧ afterWeek.head? ≠ some dash then none
      else
        let (day, _) ← takeDigits 0 1 (if extended then afterWeek.drop 1 else afterWeek)
        (weekDay? year week day).map (.week year)
    else (weekDay? year week 1).map (.week year)
  else
    let (month, afterMonth) ← takeDigits 0 2 body
    if extended ∧ afterMonth.head? ≠ some dash then none
    else
      let (day, after) ← takeDigits 0 2 (if extended then afterMonth.drop 1 else afterMonth)
      if bs.length - after.length = length then some (.calendar year month day) else none

/-- Where the date ends and the separator stands. -/
def separatorIndex? (bs : Bytes) : Option Nat :=
  let length := bs.length
  let at? (i : Nat) : Option UInt8 := bs[i]?
  let digitAt (i : Nat) : Bool := (at? i).any fun b ↦ (digitByte? b).isSome
  if length = 7 then some 7
  else if at? 4 = some dash then
    if at? 5 = some letterW then
      if length < 8 then none
      else if 8 < length ∧ at? 8 = some dash then
        if length = 9 then none
        else if 10 < length ∧ digitAt 10 then some 8
        else some 10
      else some 8
    else some 10
  else if at? 4 = some letterW then
    let digitsEnd := 7 + ((bs.drop 7).takeWhile fun b ↦ (digitByte? b).isSome).length
    if digitsEnd < 9 then some digitsEnd
    else if digitsEnd % 2 = 0 then some 7
    else some 8
  else some 8

/-! ## Reading times -/

/-- The parts of a time of day, and whether something follows them. -/
structure ClockParts where
  hour : Nat
  minute : Nat
  second : Nat
  micro : Nat
  followed : Bool

/-- A fraction of a second to the microsecond; further digits are dropped. -/
def fractionParts? (bs : Bytes) (stop : UInt8) : Option (Nat × Bool) := do
  let count := min bs.length 6
  let (n, rest) ← takeDigits 0 count bs
  let last := ((rest.dropWhile fun b ↦ (digitByte? b).isSome).head?).getD stop
  return (n * Nat.pow 10 (6 - count), last ≠ 0)

def colon : UInt8 := 58

/-- Two digits at a time, `count` times at most, then the fraction. `fields` are those read so far,
`separated` says whether colons stand between them, and `stop` is the byte after the part. -/
def clockFields? (stop : UInt8) : Nat → Bool → List Nat → Bytes → Option (List Nat × Nat × Bool)
  | 0, _, fields, bs => do
    let (micro, followed) ← fractionParts? bs stop
    return (fields, micro, followed)
  | count + 1, separated, fields, bs => do
    let (n, after) ← takeDigits 0 2 bs
    let fields := fields ++ [n]
    let next := after.head?.getD stop
    let separated := if fields.length = 1 then next = colon else separated
    if after.length ≤ 1 then return (fields, 0, next ≠ 0)
    else if separated && next = colon then
      clockFields? stop count separated fields (after.drop 1)
    else if next = 46 ∨ next = 44 then do
      let (micro, followed) ← fractionParts? (after.drop 1) stop
      return (fields, micro, followed)
    else if separated then none
    else clockFields? stop count separated fields after

def clockParts? (bs : Bytes) (stop : UInt8) : Option ClockParts := do
  let (fields, micro, followed) ← clockFields? stop 3 true [] bs
  return ⟨fields.getD 0 0, fields.getD 1 0, fields.getD 2 0, micro, followed⟩

def letterZ : UInt8 := 90

/-- Whether a byte begins an offset. -/
def beginsOffset (b : UInt8) : Bool :=
  b == 43 || b == dash || b == letterZ

/-- The offset in microseconds, not yet checked for its range; a whole number of zero seconds is
universal time whatever its fraction. -/
def offsetParts? (sign : UInt8) (bs : Bytes) : Option Int :=
  if sign = letterZ then if bs.head?.getD 0 = 0 then some 0 else none
  else do
    let parts ← clockParts? bs 0
    if parts.followed then none
    else
      let seconds := parts.hour * 3600 + parts.minute * 60 + parts.second
      let micros : Int := seconds * microsPerSecond + parts.micro
      return if seconds = 0 then 0 else if sign = dash then -micros else micros

def timeParts? (bs : Bytes) : Option (ClockParts × Option Int) := do
  let before := bs.takeWhile fun b ↦ !beginsOffset b
  match bs.dropWhile fun b ↦ !beginsOffset b with
  | [] =>
    let clock ← clockParts? before 0
    if clock.followed then none else return (clock, none)
  | sign :: rest =>
    let clock ← clockParts? before sign
    let offset ← offsetParts? sign rest
    return (clock, some offset)

/-! ## Moments -/

/-- The number of the day a date names. -/
def DateParts.number? : DateParts → Option Nat
  | .calendar year month day =>
    if 1 ≤ year ∧ 1 ≤ month ∧ month ≤ 12 ∧ 1 ≤ day ∧ day ≤ Calendar.daysInMonth year month then
      some (Calendar.dayNumber year month day)
    else none
  | .week year number => if 1 ≤ year ∧ 7 ≤ number then some (number - 7) else none

def ClockParts.micros? (c : ClockParts) : Option Nat :=
  if c.hour < 24 ∧ c.minute < 60 ∧ c.second < 60 then
    some ((c.hour * 3600 + c.minute * 60 + c.second) * microsPerSecond + c.micro)
  else none

/-- The moment of a date, a time and an offset that are there. -/
def ofParts? (date : DateParts) (clock : ClockParts) (offset : Option Int) : Option Moment := do
  if (offset.getD 0).natAbs < microsPerDay then
    let number ← date.number?
    let micros ← clock.micros?
    ofWall? (number * microsPerDay + micros) offset
  else none

/-- The number of bytes of the character that a byte begins. -/
def separatorLength (b : UInt8) : Nat :=
  if b < 0x80 then 1
  else if 0xE0 ≤ b ∧ b < 0xF0 then 3
  else if 0xF0 ≤ b then 4
  else 2

/-- The parts of a text that has the form of a moment. -/
def parts? (bs : Bytes) : Option (DateParts × ClockParts × Option Int) := do
  if bs.length < 7 then none
  else
    let index ← separatorIndex? bs
    let date ← dateParts? bs index
    match bs.drop index with
    | [] => return (date, ⟨0, 0, 0, 0, false⟩, none)
    | separator :: _ =>
      let (clock, offset) ← timeParts? (bs.drop (index + separatorLength separator))
      return (date, clock, offset)

/-- Where a separator can stand. -/
def separatorPlaces : List Nat := [7, 8, 10]

/-- The characters of a text that are looked at: a surrogate where a separator can stand is taken
for one. -/
def isoText? : Text → Option String
  | .plain s => some s
  | .loose t =>
    let place := separatorPlaces.find? fun i ↦ t.points[i]?.any CodePoint.isLone
    (Text.ofPoints (place.elim t.points fun i ↦ t.points.set i (.char 'T'))).string?

def readIso (s : Text) : Except MomentFault Moment :=
  match (isoText? s).bind fun s ↦ parts? (utf8 s) with
  | none => .error (.malformed s)
  | some (date, clock, offset) =>
    match ofParts? date clock offset with
    | none => .error .outOfRange
    | some m => .ok m

end Moment

end SessionGate
