import SessionGate.GroupPolicy

/-!
# Where roles stand

A `RoleSource` reads roles by looking into the claims level by level, and takes a level of another
shape for an empty one. `RoleSource.mem_roles_iff` says what that comes to: the source has one path
of names, and a role is found if a list with it stands under that path.
-/

namespace SessionGate

/-! ## Paths -/

namespace Json

/-- What stands in a value under a path of names. -/
def at? (v : Json) : List Text → Option Json
  | [] => some v
  | name :: path =>
    match v with
    | .obj ms => (Members.get? ms name).bind fun w ↦ w.at? path
    | _ => none

/-- A list with a text stands under a path. -/
def ListsAt (v : Json) (path : List Text) (s : Text) : Prop :=
  ∃ items, v.at? path = some (.arr items) ∧ .str s ∈ items

theorem mem_strings_iff {v : Json} {s : Text} : s ∈ v.strings ↔ v.ListsAt [] s := by
  cases v with
  | arr items =>
    simp only [strings, List.mem_filterMap, ListsAt, at?, Option.some.injEq, arr.injEq,
      exists_eq_left']
    constructor
    · rintro ⟨item, hitem, hs⟩
      cases item <;> cases hs
      exact hitem
    · intro hs
      exact ⟨.str s, hs, rfl⟩
  | _ => simp [strings, ListsAt, at?]

theorem not_listsAt_null {path : List Text} {s : Text} : ¬Json.null.ListsAt path s := by
  rintro ⟨items, hitems, -⟩
  cases path <;> cases hitems

/-- A member that is not there lists nothing, like the null that is read in its place. -/
theorem listsAt_get_iff {ms : Members} {name : Text} {path : List Text} {s : Text} :
    (ms.get name).ListsAt path s ↔ (Json.obj ms).ListsAt (name :: path) s := by
  rw [Members.get, ListsAt, ListsAt, at?]
  cases ms.get? name with
  | none =>
    refine iff_of_false not_listsAt_null ?_
    rintro ⟨items, hitems, -⟩
    cases hitems
  | some w => rfl

/-- What is no object has nothing under a name, like an object without members. -/
theorem listsAt_membersOf_iff {v : Json} {name : Text} {path : List Text} {s : Text} :
    (Json.obj (RoleSource.membersOf v)).ListsAt (name :: path) s ↔ v.ListsAt (name :: path) s := by
  cases v with
  | obj ms => rfl
  | _ =>
    refine iff_of_false ?_ ?_
    · rintro ⟨items, hitems, -⟩
      cases hitems
    · rintro ⟨items, hitems, -⟩
      cases hitems

end Json

/-! ## Roles -/

namespace RoleSource

/-- The path under which the roles stand. -/
def path : RoleSource → List Text
  | realm => ["realm_access", "roles"]
  | client id => ["resource_access", id, "roles"]
  | claim name => [name]

/-- The claims list a role where the source looks for it. -/
def Lists (source : RoleSource) (claims : Members) (role : Text) : Prop :=
  (Json.obj claims).ListsAt source.path role

/-- **A role is found exactly under the path.** -/
theorem mem_roles_iff {source : RoleSource} {claims : Members} {role : Text} :
    role ∈ source.roles claims ↔ source.Lists claims role := by
  cases source with
  | realm =>
    rw [roles, Json.mem_strings_iff, Json.listsAt_get_iff, Json.listsAt_membersOf_iff,
      Json.listsAt_get_iff]
    rfl
  | client id =>
    rw [roles, Json.mem_strings_iff, Json.listsAt_get_iff, Json.listsAt_membersOf_iff,
      Json.listsAt_get_iff, Json.listsAt_membersOf_iff, Json.listsAt_get_iff]
    rfl
  | claim name =>
    rw [roles, Json.mem_strings_iff, Json.listsAt_get_iff]
    rfl

end RoleSource

/-! ## Policies -/

namespace GroupPolicy

variable {policy : GroupPolicy}

theorem restricts_eq_true_iff : policy.restricts = true ↔ policy.groups ≠ [] := by
  rw [restricts, Bool.not_eq_true', List.isEmpty_eq_false_iff]

theorem restricts_eq_false_iff : policy.restricts = false ↔ policy.groups = [] := by
  rw [restricts, Bool.not_eq_false', List.isEmpty_iff]

theorem matchesClaims_eq_true_iff {claims : Members} :
    policy.matchesClaims claims = true ↔
      ∃ role ∈ policy.groups, policy.source.Lists claims role := by
  simp only [matchesClaims, List.any_eq_true, List.contains_eq_mem, decide_eq_true_eq,
    RoleSource.mem_roles_iff]
  exact exists_congr fun role ↦ and_comm

/-- A policy for a list of groups has those that have a name. -/
theorem mem_restrictedTo_iff {groups : List Text} {source : RoleSource} {group : Text} :
    group ∈ (restrictedTo groups source).groups ↔ group ∈ groups ∧ group ≠ "" := by
  rw [restrictedTo, List.mem_filter, decide_eq_true_eq]

end GroupPolicy

end SessionGate
