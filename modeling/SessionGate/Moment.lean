import SessionGate.Binary64

/-!
# Moments of time

A moment is what a calendar and a clock on the wall show, to the microsecond, and how far that
clock is ahead of universal time. A moment without a zone shows a wall clock only; it has no place
on the time line and cannot be compared with one that has. Offsets are fixed: a time of a zone whose
clocks are set forward and back is the moment with the offset that they have by then.

The calendar is the Gregorian one, carried on before its introduction, from the year 1 to the year
9999. Days are counted from the first day of the year 1.
-/

namespace SessionGate

/-! ## The calendar -/

namespace Calendar

def isLeap (year : Nat) : Bool :=
  year % 4 == 0 && (year % 100 != 0 || year % 400 == 0)

def monthLengths (leap : Bool) : List Nat :=
  [31, if leap then 29 else 28, 31, 30, 31, 30, 31, 31, 30, 31, 30, 31]

/-- The length of a month, counted from one. -/
def daysInMonth (year month : Nat) : Nat :=
  (monthLengths (isLeap year)).getD (month - 1) 0

/-- The days before the first of January of a year. -/
def daysBeforeYear (year : Nat) : Nat :=
  let n := year - 1
  n * 365 + n / 4 - n / 100 + n / 400

/-- The number of the day, counted from zero. -/
def dayNumber (year month day : Nat) : Nat :=
  daysBeforeYear year + ((monthLengths (isLeap year)).take (month - 1)).foldl (· + ·) 0 + (day - 1)

/-- The place of a day among periods of the given lengths: the period and the days before it in
the period, both counted from zero. -/
def splitDays : List Nat → Nat → Nat × Nat
  | [], n => (0, n)
  | length :: rest, n =>
    if n < length then (0, n)
    else
      let (i, left) := splitDays rest (n - length)
      (i + 1, left)

/-- The year of a day and the days of the year before it. -/
def yearOf (number : Nat) : Nat × Nat :=
  let n400 := number / 146097
  let r400 := number % 146097
  let n100 := r400 / 36524
  let r100 := r400 % 36524
  let n4 := r100 / 1461
  let r4 := r100 % 1461
  let n1 := r4 / 365
  let r1 := r4 % 365
  let year := n400 * 400 + n100 * 100 + n4 * 4 + n1
  if n100 = 4 ∨ n1 = 4 then (year, 365) else (year + 1, r1)

def dateOf (number : Nat) : Nat × Nat × Nat :=
  let (year, days) := yearOf number
  let (month, day) := splitDays (monthLengths (isLeap year)) days
  (year, month + 1, day + 1)

/-- The number of days the calendar has. -/
def dayCount : Nat := 3652059

/-- The day of the week, Monday being zero. -/
def weekday (number : Nat) : Nat :=
  number % 7

/-- The Monday of the week that holds the first Thursday of the year, which may lie in the year
before; days are counted from a week before the calendar begins, so that it always exists. -/
def firstMonday (year : Nat) : Nat :=
  let first := daysBeforeYear year
  let day := weekday first
  if 3 < day then first + 7 - day + 7 else first + 7 - day

def hasWeek53 (year : Nat) : Bool :=
  let day := weekday (daysBeforeYear year)
  day == 3 || (day == 2 && isLeap year)

end Calendar

/-! ## Moments -/

def microsPerSecond : Nat := 1000000

def microsPerDay : Nat := 86400 * microsPerSecond

/-- What a wall clock shows: microseconds since the calendar began, and the microseconds it is
ahead of universal time, if that is known. -/
structure Moment where
  wall : Nat
  offset : Option Int
  wall_lt : wall < Calendar.dayCount * microsPerDay
  deriving DecidableEq, Repr

namespace Moment

/-- Midnight of the first of January 1970 on the wall. -/
def epochWall : Nat := 719162 * microsPerDay

def ofWall? (wall : Nat) (offset : Option Int) : Option Moment :=
  if h : wall < Calendar.dayCount * microsPerDay then some ⟨wall, offset, h⟩ else none

/-- The place on the time line, in microseconds since 1970; for a moment without a zone, that of a
clock showing universal time. -/
def instant (m : Moment) : Int :=
  (m.wall : Int) - epochWall - m.offset.getD 0

/-- Whole seconds since 1970, rounded down. -/
def seconds (m : Moment) : Int :=
  m.instant / microsPerSecond

/-- Microseconds as a number of seconds. -/
def secondsOf (micros : Int) : Binary64 :=
  .ofRatio (micros < 0) micros.natAbs microsPerSecond

def timestamp (m : Moment) : Binary64 :=
  secondsOf m.instant

def isAware (m : Moment) : Bool :=
  m.offset.isSome

/-- The moment at an instant, on a clock showing universal time. -/
def ofInstant? (instant : Int) : Option Moment :=
  let wall := instant + epochWall
  if 0 ≤ wall then ofWall? wall.toNat (some 0) else none

/-- The same instant on a clock showing universal time. -/
def toUniversal? (m : Moment) : Option Moment :=
  ofInstant? m.instant

/-- A moment without a zone is taken to show universal time. -/
def orUniversal (m : Moment) : Moment :=
  match m.offset with
  | some _ => m
  | none => { m with offset := some 0 }

/-- The moment so many seconds later on the same clock, if the calendar still has it. -/
def addSeconds? (m : Moment) (seconds : Nat) : Option Moment :=
  ofWall? (m.wall + seconds * microsPerSecond) m.offset

/-- Which of two moments is later; `none` where only one of them has a zone. -/
def later? (a b : Moment) : Option Bool :=
  if a.isAware = b.isAware then some (b.instant < a.instant) else none

/-- Whether two moments are the same instant; never where only one of them has a zone. -/
def same (a b : Moment) : Bool :=
  a.isAware = b.isAware && a.instant = b.instant

end Moment

end SessionGate
