import SessionGate.Json

/-!
# Equality of values

Versions and issuers are compared as values, where truth values count as numbers and numbers are
compared by what they are worth. Between two integers, and against a text, that is equality.

Equality of terms is finer and can be decided, one constructor after the other.
-/

namespace SessionGate

/-- A member that is read as a text is there, since one that is not is read as null. -/
theorem Members.get?_of_get_str {ms : Members} {name s : Text} (h : ms.get name = .str s) :
    ms.get? name = some (.str s) := by
  rw [get] at h
  cases hget : ms.get? name with
  | none => rw [hget] at h; cases h
  | some v => rw [hget] at h; exact congrArg some h

namespace Json

theorem same_int_iff (m n : Int) : (Json.int m).same (.int n) = true ↔ m = n := by
  simp [same, sameNumber, worth?]

theorem same_str_iff (v : Json) (s : Text) : v.same (.str s) = true ↔ v = .str s := by
  cases v <;> simp [same, sameNumber, worth?]

/-! ## Equality of terms -/

mutual

/-- Whether two values are the same term. -/
def isTerm : Json → Json → Bool
  | null, null => true
  | bool a, bool b => a == b
  | int m, int n => m == n
  | float x, float y => x == y
  | str s, str t => s == t
  | arr vs, arr ws => areTerms vs ws
  | obj ms, obj ns => membersAreTerms ms ns
  | _, _ => false

def areTerms : List Json → List Json → Bool
  | [], [] => true
  | v :: vs, w :: ws => isTerm v w && areTerms vs ws
  | _, _ => false

def membersAreTerms : Members → Members → Bool
  | [], [] => true
  | (m, v) :: ms, (n, w) :: ns => m == n && isTerm v w && membersAreTerms ms ns
  | _, _ => false

end

mutual

theorem isTerm_iff (v w : Json) : isTerm v w = true ↔ v = w := by
  cases v with
  | arr vs => cases w <;> simp [isTerm, areTerms_iff vs]
  | obj ms => cases w <;> simp [isTerm, membersAreTerms_iff ms]
  | _ => cases w <;> simp [isTerm]

theorem areTerms_iff (vs ws : List Json) : areTerms vs ws = true ↔ vs = ws := by
  cases vs with
  | nil => cases ws <;> simp [areTerms]
  | cons v vs => cases ws <;> simp [areTerms, isTerm_iff v, areTerms_iff vs]

theorem membersAreTerms_iff (ms ns : Members) : membersAreTerms ms ns = true ↔ ms = ns := by
  cases ms with
  | nil => cases ns <;> simp [membersAreTerms]
  | cons m ms =>
    obtain ⟨name, v⟩ := m
    cases ns with
    | nil => simp [membersAreTerms]
    | cons n ns => cases n; simp [membersAreTerms, isTerm_iff v, membersAreTerms_iff ms, and_assoc]

end

instance : DecidableEq Json := fun v w ↦ decidable_of_iff _ (isTerm_iff v w)

end Json

end SessionGate
