import SessionGate.Json

/-!
# Roles in claims

Providers put a user's roles in different places of the identity token. A `RoleSource` names such a
place, and `RoleSource.roles` reads it. A claim set of any other shape holds no roles.
-/

namespace SessionGate

inductive RoleSource where
  /-- The roles of the realm. -/
  | realm
  /-- The roles the user has at one client. -/
  | client (id : Text)
  /-- A claim that is a flat list. -/
  | claim (name : Text)
  deriving DecidableEq, Repr

namespace RoleSource

def name : RoleSource → Text
  | realm => "realm_access_roles"
  | client id => "resource_access_roles[" ++ id ++ "]"
  | claim name => "groups_claim[" ++ name ++ "]"

/-- The members of an object; any other value has none. -/
def membersOf (v : Json) : Members :=
  v.obj?.getD []

def roles (source : RoleSource) (claims : Members) : List Text :=
  match source with
  | realm => ((membersOf (claims.get "realm_access")).get "roles").strings
  | client id =>
    ((membersOf ((membersOf (claims.get "resource_access")).get id)).get "roles").strings
  | claim name => (claims.get name).strings

end RoleSource

end SessionGate
