import SessionGate.Proofs.JsonEquality
import SessionGate.Proofs.Steps
import SessionGate.Verifier.Claims

/-!
# What the checks of claims establish

`Expectations.check` asks one claim after the other. Each question has one equivalence here that
says what a claim set is like that passes it, in terms of the members of the claim set alone, and
`check_eq_ok_iff` puts them together.

A question about a time or an audience is about a claim that is there: it has the form "whatever the
claim holds, it is acceptable", so a claim set without the claim passes. The question about the
issuer has another form, since what is not there is compared with the issuer like everything else.
-/

namespace SessionGate

/-- The claims hold a time that a second has not passed by more than the leeway. -/
def Unexpired (claims : Members) (leeway now : Int) : Prop :=
  ∃ v n, claims.get? "exp" = some v ∧ v.toInteger = .ok n ∧ now - leeway ≤ n

/-- An audience is named by a claim that is its name or a list of names with it. -/
def NamesAudience (v : Json) (audience : Text) : Prop :=
  v = .str audience ∨ ∃ names : List Text, v = .arr (names.map .str) ∧ audience ∈ names

theorem Members.has_eq_true_iff (ms : Members) (name : Text) :
    ms.has name = true ↔ ∃ v, ms.get? name = some v :=
  Option.isSome_iff_exists

theorem Members.has_eq_false_iff (ms : Members) (name : Text) :
    ms.has name = false ↔ ms.get? name = none := by
  rw [has, Option.isSome_eq_false_iff, Option.isNone_iff_eq_none]

namespace Expectations

/-! ## Times -/

/-- A time that is there is an integer. -/
theorem time?_eq_ok_some {claims : Members} {name : Text} {form : ClaimFault} {n : Int}
    (h : time? claims name form = .ok (some n)) :
    ∃ v, claims.get? name = some v ∧ v.toInteger = .ok n := by
  rw [time?] at h
  cases hget : claims.get? name with
  | none => rw [hget] at h; cases h
  | some v =>
    rw [hget] at h
    simp only at h
    cases hv : v.toInteger with
    | ok m => rw [hv] at h; cases h; exact ⟨v, rfl, hv⟩
    | error fault => rw [hv] at h; cases fault <;> cases h

theorem time?_eq_ok_none_iff {claims : Members} {name : Text} {form : ClaimFault} :
    time? claims name form = .ok none ↔ claims.get? name = none := by
  rw [time?]
  cases claims.get? name with
  | none => exact iff_of_true rfl rfl
  | some v =>
    refine iff_of_false ?_ (fun h ↦ (nomatch h))
    simp only
    rcases v.toInteger with fault | n
    · cases fault <;> exact fun h ↦ (nomatch h)
    · exact fun h ↦ (nomatch h)

theorem time?_of_toInteger {claims : Members} {name : Text} {v : Json} {n : Int}
    (form : ClaimFault) (hget : claims.get? name = some v) (hv : v.toInteger = .ok n) :
    time? claims name form = .ok (some n) := by
  rw [time?, hget]
  simp only [hv]

/-- A question about a time passes if nothing is there, or a time that is within bounds. -/
theorem checkTime_eq_ok_iff {claims : Members} {name : Text} {form fault : ClaimFault}
    {isOut : Int → Bool} :
    checkTime claims name form fault isOut = .ok () ↔
      claims.get? name = none ∨
        ∃ v n, claims.get? name = some v ∧ v.toInteger = .ok n ∧ isOut n = false := by
  rw [checkTime]
  constructor
  · intro h
    rcases htime : time? claims name form with fault | _ | n
    · rw [htime] at h
      cases h
    · exact .inl (time?_eq_ok_none_iff.mp htime)
    · obtain ⟨v, hget, hv⟩ := time?_eq_ok_some htime
      rw [htime] at h
      cases hout : isOut n with
      | true => simp [hout] at h
      | false => exact .inr ⟨v, n, hget, hv, hout⟩
  · rintro (hnone | ⟨v, n, hget, hv, hout⟩)
    · rw [time?_eq_ok_none_iff.mpr hnone]
    · rw [time?_of_toInteger form hget hv]
      simp [hout]

/-- **The expiry is asked for only where it is there.** -/
theorem checkExpiry_eq_ok_iff (e : Expectations) (now : Int) (claims : Members) :
    e.checkExpiry now claims = .ok () ↔
      claims.get? "exp" = none ∨ Unexpired claims e.leeway now := by
  rw [checkExpiry, checkTime_eq_ok_iff]
  simp only [decide_eq_false_iff_not, Int.not_lt, Unexpired]

theorem checkNotBefore_eq_ok_iff (e : Expectations) (now : Int) (claims : Members) :
    e.checkNotBefore now claims = .ok () ↔
      claims.get? "nbf" = none ∨
        ∃ v n, claims.get? "nbf" = some v ∧ v.toInteger = .ok n ∧ n ≤ now + e.leeway := by
  rw [checkNotBefore, checkTime_eq_ok_iff]
  simp only [decide_eq_false_iff_not, Int.not_lt]

/-! ## Audience and issuer -/

theorem mapM_str?_eq_some_iff (items : List Json) (names : List Text) :
    items.mapM Json.str? = some names ↔ items = names.map .str := by
  induction items generalizing names with
  | nil => cases names <;> simp
  | cons v items ih =>
    rw [List.mapM_cons]
    cases v with
    | str s =>
      simp only [Json.str?, Option.bind_eq_bind, Option.bind_some, Option.bind_eq_some_iff, ih,
        Option.pure_def, Option.some.injEq]
      constructor
      · rintro ⟨rest, hitems, hnames⟩
        rw [← hnames, hitems, List.map_cons]
      · intro h
        cases names with
        | nil => cases h
        | cons name rest =>
          rw [List.map_cons, List.cons.injEq, Json.str.injEq] at h
          exact ⟨rest, h.2, by rw [h.1]⟩
    | _ => cases names <;> simp [Json.str?]

theorem audiences?_contains_iff (v : Json) (audience : Text) :
    (∃ names, audiences? v = some names ∧ audience ∈ names) ↔ NamesAudience v audience := by
  cases v with
  | str s => simp [audiences?, NamesAudience, eq_comm]
  | arr items => simp [audiences?, NamesAudience, mapM_str?_eq_some_iff]
  | _ => simp [audiences?, NamesAudience]

/-- **The audience is asked for only where it is there.** -/
theorem checkAudience_eq_ok_iff (e : Expectations) (claims : Members) :
    e.checkAudience claims = .ok () ↔
      ∀ audience v, e.audience = some audience → claims.get? "aud" = some v →
        NamesAudience v audience := by
  rw [checkAudience]
  cases e.audience with
  | none => simp
  | some audience =>
    cases claims.get? "aud" with
    | none => simp
    | some v =>
      have hnames : (∀ a u, some audience = some a → some v = some u → NamesAudience u a) ↔
          ∃ names, audiences? v = some names ∧ audience ∈ names := by
        rw [audiences?_contains_iff]
        exact ⟨fun h ↦ h audience v rfl rfl, fun h a u ha hu ↦ by cases ha; cases hu; exact h⟩
      rw [hnames]
      simp only
      cases audiences? v with
      | none => simp
      | some names => simp

/-- **The issuer is asked for whether it is there or not.** -/
theorem checkIssuer_eq_ok_iff (e : Expectations) (claims : Members) :
    e.checkIssuer claims = .ok () ↔
      ∀ issuer, e.issuer = some issuer → claims.get? "iss" = some (.str issuer) := by
  rw [checkIssuer]
  cases e.issuer with
  | none => simp
  | some issuer =>
    have hget : claims.get "iss" = .str issuer ↔ claims.get? "iss" = some (.str issuer) := by
      rw [Members.get]
      cases claims.get? "iss" <;> simp
    simp only [Option.some.injEq, forall_eq', ← hget, ← Json.same_str_iff]
    cases (claims.get "iss").same (.str issuer) <;> simp

/-! ## All checks -/

theorem check_eq_ok_iff (e : Expectations) (now : Int) (claims : Members) :
    e.check now claims = .ok () ↔
      checkIssuedAt claims = .ok () ∧ e.checkNotBefore now claims = .ok () ∧
        e.checkExpiry now claims = .ok () ∧ e.checkAudience claims = .ok () ∧
        e.checkIssuer claims = .ok () ∧ checkText claims "sub" .subjectForm = .ok () ∧
        checkText claims "jti" .tokenIdForm = .ok () := by
  rw [check, unit_bind_eq_ok_iff, unit_bind_eq_ok_iff, unit_bind_eq_ok_iff, unit_bind_eq_ok_iff,
    unit_bind_eq_ok_iff, unit_bind_eq_ok_iff]

end Expectations

end SessionGate
