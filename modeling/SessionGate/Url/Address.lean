import SessionGate.Text.Digits
import SessionGate.Text.Parts

/-!
# Numeric addresses

A host may be an address of version 4, which is four numbers with points between them, or one of
version 6, which is eight groups of hexadecimal digits with colons between them. In an address of
version 6 a run of zero groups may be left out, and the last two groups may be written as an address
of version 4.
-/

namespace SessionGate.Url.Address

open Text

/-! ## Version 4 -/

/-- A number up to 255 without a needless zero. -/
def isOctet (cs : List Char) : Bool :=
  !cs.isEmpty && cs.length ≤ 3 && cs.all Char.isDigit && (cs == ['0'] || cs.head? != some '0') &&
    digitsValue cs ≤ 255

def isVersion4 (cs : List Char) : Bool :=
  let parts := splitOn '.' cs
  parts.length == 4 && parts.all isOctet

/-- The runs of digits in a text; there is one more of them than other characters. -/
def digitRuns : List Char → List (List Char)
  | [] => [[]]
  | c :: rest =>
    match digitRuns rest with
    | run :: runs => if c.isDigit then (c :: run) :: runs else [] :: run :: runs
    | [] => [[]]

/-- Whether a host is meant to be an address of version 4: four runs of digits with any one
character between each two, which may be a digit as well. A run can be taken for as many runs as
half its length, rounded up. -/
def isLikeVersion4 (cs : List Char) : Bool :=
  let runs := digitRuns cs
  runs.length ≤ 4 && runs.all (!·.isEmpty) &&
    4 ≤ runs.foldl (fun n run ↦ n + (run.length + 1) / 2) 0

/-! ## Version 6 -/

/-- Up to four hexadecimal digits. -/
def isGroup (cs : List Char) : Bool :=
  !cs.isEmpty && cs.length ≤ 4 && cs.all fun c ↦ (hexDigit? c).isSome

/-- The groups, two for an address of version 4 at the end. -/
def groups? (cs : List Char) : Option (List (List Char)) :=
  let parts := splitOn ':' cs
  match parts.getLast? with
  | some last =>
    if last.contains '.' then
      if isVersion4 last then some (parts.dropLast ++ [['0'], ['0']]) else none
    else some parts
  | none => none

/-- The groups before or after those left out; nothing at all is no group. -/
def sideGroups (parts : List (List Char)) : List (List Char) :=
  if parts = [[]] then [] else parts

/-- Whether the groups are those of an address: eight of them, or fewer where an empty one stands
for those that are left out. -/
def areGroups (parts : List (List Char)) : Bool :=
  let inner := (parts.drop 1).dropLast
  match inner.count [] with
  | 0 => parts.length == 8 && parts.all isGroup
  | 1 =>
    let place := 1 + inner.idxOf []
    let sides := sideGroups (parts.take place) ++ sideGroups (parts.drop (place + 1))
    sides.length ≤ 7 && sides.all isGroup
  | _ => false

/-- An address of version 6, perhaps with the name of a zone after a percent sign. -/
def isVersion6 (cs : List Char) : Bool :=
  let (address, hasZone) :=
    match cut? '%' cs with
    | some (address, zone) => (address, !zone.isEmpty && !zone.contains '%')
    | none => (cs, true)
  let colons := address.count ':'
  hasZone && 2 ≤ colons && (groups? address).any fun parts ↦ parts.length ≤ 9 && areGroups parts

end SessionGate.Url.Address
