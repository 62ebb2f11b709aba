import SessionGate.Checked.Scalar
import SessionGate.Moment

/-!
# Moments in fields

A field that holds a moment may spell it as a date and a time, as a date alone, or as a number of
seconds since 1970, of milliseconds if the number is large. The form is narrower than that of
`Moment.readIso`: the date is an extended calendar date and the time has at least hours and
minutes.

The form has a year 0, which the calendar has not. A text that names a moment of that year is well
formed and is told apart from one that is not: `Reading` has a case for it.
-/

namespace SessionGate.Moment

open Text

/-- What a well-formed text or a number names. -/
inductive Reading where
  | moment (m : Moment)
  /-- A moment of the year before the calendar begins. -/
  | yearZero

def Reading.moment? : Reading → Option Moment
  | moment m => some m
  | yearZero => none

/-! ## Numbers -/

/-- The largest number that counts seconds; what lies past it counts milliseconds. -/
def largestSeconds : Nat := 20000000000

/-- The second with which the year 0 begins. -/
def yearZeroSecond : Int := -62167219200

/-- What lies so many microseconds after 1970, in the years 0 to 9999. -/
def readingAt? (instant : Int) : Option Reading :=
  match ofInstant? instant with
  | some m => some (.moment m)
  | none =>
    if yearZeroSecond * microsPerSecond ≤ instant ∧ instant < 0 then some .yearZero else none

def ofCount? (n : Int) : Option Reading :=
  readingAt? (n * if n.natAbs ≤ largestSeconds then microsPerSecond else 1000)

/-- The microseconds in the fraction of a double, to the nearest, a half going up. Both the fraction
and its product are rounded to doubles on the way. -/
def fractionOf (x : Binary64) : Nat :=
  match (x.fraction.timesNat microsPerSecond).toRatio? with
  | some (n, d) => (2 * n.natAbs + d) / (2 * d)
  | none => 0

/-- What a double names. A number of milliseconds is rounded to a double of seconds first. -/
def ofDouble? (x : Binary64) : Option Reading :=
  let seconds := if (Binary64.ofNat largestSeconds).lt x.abs then x.overNat 1000 else x
  seconds.floor?.bind fun whole ↦ readingAt? (whole * microsPerSecond + fractionOf seconds)

/-! ## Dates and times -/

def twoDigits? (a b : Char) : Option Nat := do
  return (← asciiDigit? a) * 10 + (← asciiDigit? b)

/-- The number of the day that begins a text, none for a day of the year 0, and the rest. -/
def spanDate? : List Char → Option (Option Nat × List Char)
  | y1 :: y2 :: y3 :: y4 :: '-' :: m1 :: m2 :: '-' :: d1 :: d2 :: rest => do
    let year := (← twoDigits? y1 y2) * 100 + (← twoDigits? y3 y4)
    let month ← twoDigits? m1 m2
    let day ← twoDigits? d1 d2
    if 1 ≤ month ∧ month ≤ 12 ∧ 1 ≤ day ∧ day ≤ Calendar.daysInMonth year month then
      return (if year = 0 then none else some (Calendar.dayNumber year month day), rest)
    else none
  | _ => none

/-- The microseconds of the digits of a fraction; those after the sixth are dropped. -/
def fractionMicros (digits : List Char) : Nat :=
  let kept := digits.take 6
  digitsValue kept * Nat.pow 10 (6 - kept.length)

/-- The seconds of a time and their fraction, in microseconds, and the rest. Seconds may be left
out, but not the digits of a fraction. -/
def spanSeconds? : List Char → Option (Nat × List Char)
  | ':' :: s1 :: s2 :: rest => do
    let second ← twoDigits? s1 s2
    if 59 < second then none
    else
      match rest with
      | '.' :: more | ',' :: more =>
        match spanDigits more with
        | ([], _) => none
        | (digits, rest) => return (second * microsPerSecond + fractionMicros digits, rest)
      | rest => return (second * microsPerSecond, rest)
  | ':' :: _ => none
  | rest => some (0, rest)

/-- The time of day in microseconds, and the rest. -/
def spanTime? : List Char → Option (Nat × List Char)
  | h1 :: h2 :: ':' :: m1 :: m2 :: rest => do
    let hour ← twoDigits? h1 h2
    let minute ← twoDigits? m1 m2
    if 23 < hour ∨ 59 < minute then none
    else
      let (micros, rest) ← spanSeconds? rest
      return ((hour * 60 + minute) * 60 * microsPerSecond + micros, rest)
  | _ => none

/-- The sign of an offset, and the rest; a true minus sign counts as one. -/
def spanOffsetSign? : List Char → Option (Bool × List Char)
  | '+' :: rest => some (false, rest)
  | '-' :: rest => some (true, rest)
  | '−' :: rest => some (true, rest)
  | _ => none

/-- The offset that ends a text, in microseconds; there need not be one. -/
def readOffset? : List Char → Option (Option Int)
  | [] => some none
  | ['Z'] | ['z'] => some (some 0)
  | cs => do
    let (negative, body) ← spanOffsetSign? cs
    let (hour, minute) ←
      match body with
      | [h1, h2, ':', m1, m2] | [h1, h2, m1, m2] =>
        pure (← twoDigits? h1 h2, ← twoDigits? m1 m2)
      | _ => none
    if 59 < minute ∨ 23 < hour then none
    else
      let micros : Int := (hour * 60 + minute) * 60 * microsPerSecond
      return some (if negative then -micros else micros)

def isDateMark (c : Char) : Bool :=
  c == 'T' || c == 't' || c == ' ' || c == '_'

/-- A time of a day, which may be one of the year 0. -/
def readingOn? (day : Option Nat) (micros : Nat) (offset : Option Int) : Option Reading :=
  match day with
  | some day => (ofWall? (day * microsPerDay + micros) offset).map .moment
  | none => some .yearZero

/-- A date with a time, or a date alone, whose time is midnight. -/
def readDateTime? (cs : List Char) : Option Reading := do
  let (day, rest) ← spanDate? cs
  match rest with
  | [] => readingOn? day 0 none
  | mark :: rest =>
    if isDateMark mark then
      let (micros, rest) ← spanTime? rest
      let offset ← readOffset? rest
      readingOn? day micros offset
    else none

/-! ## Spelled numbers -/

/-- What a spelled number names: an integer of 64 bits, or a number with a point after its whole
part. -/
def readTimestamp? (cs : List Char) : Option Reading :=
  let (negative, body) := spanSign cs
  match spanDigits body with
  | ([], []) => none
  | (whole, []) =>
    let n := digitsValue whole
    if n < Nat.pow 2 63 then ofCount? (if negative then -(n : Int) else n) else none
  | (_, '.' :: _) => (Checked.readUnsignedFloat? negative body).bind ofDouble?
  | _ => none

def readLax? (s : String) : Option Reading :=
  (readDateTime? s.toList).orElse fun _ ↦ readTimestamp? s.toList

end SessionGate.Moment

namespace SessionGate.Checked

def momentOfText (s : String) : Checked Moment :=
  match Moment.readLax? s with
  | some (.moment m) => valid m
  | some .yearZero => fault .unreadableMoment
  | none => fault .unreadableDate

/-- A moment in a field. An integer past 64 bits counts as a double, if it is not past these
too. -/
def moment : Json → Checked Moment
  | .str s => unicode momentOfText s
  | .int n =>
    match (Moment.ofCount? n).bind Moment.Reading.moment? with
    | some m => valid m
    | none => fault (if (Binary64.ofInt n).isFinite then .unreadableMoment else .notMoment)
  | .float x =>
    match (Moment.ofDouble? x).bind Moment.Reading.moment? with
    | some m => valid m
    | none => fault .unreadableMoment
  | _ => fault .notMoment

end SessionGate.Checked
