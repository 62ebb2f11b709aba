import SessionGate.Roles

/-!
# Group policies

A policy lists the groups whose members are let in. A policy without groups restricts nobody.
-/

namespace SessionGate

/-- The groups that are let in, and where the groups of a user stand. -/
structure GroupPolicy where
  groups : List Text := []
  source : RoleSource := .realm
  deriving DecidableEq, Repr

namespace GroupPolicy

def allowAll : GroupPolicy := {}

/-- The policy for a list of groups; empty names are no groups. -/
def restrictedTo (groups : List Text) (source : RoleSource := .realm) : GroupPolicy where
  groups := groups.filter (· ≠ "")
  source := source

def restricts (p : GroupPolicy) : Bool :=
  !p.groups.isEmpty

/-- Whether one of the user's roles is a group that is let in. -/
def matchesClaims (p : GroupPolicy) (claims : Members) : Bool :=
  (p.source.roles claims).any fun role ↦ p.groups.contains role

/-- The groups in order, each one once. -/
def sortedGroups (p : GroupPolicy) : List Text :=
  p.groups.eraseDups.mergeSort (· ≤ ·)

end GroupPolicy

end SessionGate
