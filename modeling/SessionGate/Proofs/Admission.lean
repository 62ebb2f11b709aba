import SessionGate.Proofs.Perform
import SessionGate.Proofs.Steps
import SessionGate.Provider

/-!
# Who is let in

A session is asked about in two ways: whether its identity token verifies, and whether a policy lets
its user in. Both are one look at the clock and one decision of the verifier, and neither touches
anything but the journal. The equations say so, and the equivalences below them say when the answer
is yes.

A verifier that does not accept never lets anybody in: its fault becomes a no or a defect.
-/

namespace SessionGate

namespace Provider

variable (p : Provider) (policy : GroupPolicy) (s : Session) (w : World)

/-- What a fault of the verifier becomes for somebody who asked for a yes or a no. -/
def refusal (fault : VerificationFault) : Except Failure Bool :=
  match fault.toFailure with
  | .refused _ => .ok false
  | .defect d => .error (.defect d)

theorem refusal_ne_ok_true (fault : VerificationFault) : refusal fault ≠ .ok true := by
  rw [refusal]
  cases fault.toFailure <;> exact fun h ↦ (nomatch h)

/-! ## The identity token -/

theorem perform_validateSession :
    (p.validateSession s).perform w =
      match p.verifier.check w.now.seconds s.idToken with
      | .ok _ => (.ok true, w)
      | .error fault => (refusal fault, w.written fault.entries) := by
  rw [validateSession, Action.perform_bind, Action.perform_now]
  cases hcheck : p.verifier.check w.now.seconds s.idToken with
  | ok claims => simp only [hcheck, Action.perform_pure]
  | error fault =>
    simp only [hcheck, Action.perform_bind, Action.perform_logAll, refusal]
    cases fault.toFailure <;> rfl

/-- A session is valid exactly while its identity token is accepted. -/
theorem validateSession_eq_ok_true_iff :
    ((p.validateSession s).perform w).1 = .ok true ↔
      ∃ claims, p.verifier.check w.now.seconds s.idToken = .ok claims := by
  rw [perform_validateSession]
  cases p.verifier.check w.now.seconds s.idToken with
  | ok claims => exact iff_of_true rfl ⟨claims, rfl⟩
  | error fault => exact iff_of_false (refusal_ne_ok_true fault) (fun ⟨_, h⟩ ↦ (nomatch h))

/-! ## The policy -/

theorem Decision.answer_eq_ok_true_iff (d : Decision) :
    d.answer = .ok true ↔ d.admits = true := by
  cases d with
  | unrestricted => exact iff_of_true rfl rfl
  | allowed => exact iff_of_true rfl rfl
  | denied claims => exact iff_of_false (fun h ↦ (nomatch h)) (fun h ↦ (nomatch h))
  | unverified fault =>
    refine iff_of_false ?_ (fun h ↦ (nomatch h))
    rw [answer]
    cases fault.toFailure <;> exact fun h ↦ (nomatch h)

/-- Whom a policy admits: everybody if it restricts nobody, and otherwise those whose token is
accepted and names one of its groups. -/
theorem judge_admits_iff (now : Int) (idToken : Json) :
    (p.judge policy now idToken).admits = true ↔
      policy.restricts = false ∨
        ∃ claims, p.verifier.check now idToken = .ok claims ∧
          policy.matchesClaims claims = true := by
  rw [judge]
  by_cases hrestricts : policy.restricts = true
  · rw [hrestricts]
    cases p.verifier.check now idToken with
    | error fault => simp [Decision.admits]
    | ok claims => cases hmatches : policy.matchesClaims claims <;> simp [Decision.admits, hmatches]
  · rw [Bool.not_eq_true] at hrestricts
    simp [hrestricts, Decision.admits]

theorem perform_validateUnder :
    (p.validateUnder policy s).perform w =
      ((p.judge policy w.now.seconds s.idToken).answer.mapError .defect,
        w.written ((p.judge policy w.now.seconds s.idToken).entries policy s.email)) := by
  rw [validateUnder, Action.perform_bind, Action.perform_now]
  simp only [Action.perform_bind, Action.perform_logAll, Action.perform_liftDefect]

theorem perform_validateGroup :
    (p.validateGroup s).perform w = (p.validateUnder w.policy s).perform w := by
  rw [validateGroup, Action.perform_bind, Action.perform_get]

/-- The user of a session is let in exactly as the installed policy says. -/
theorem validateGroup_eq_ok_true_iff :
    ((p.validateGroup s).perform w).1 = .ok true ↔
      w.policy.restricts = false ∨
        ∃ claims, p.verifier.check w.now.seconds s.idToken = .ok claims ∧
          w.policy.matchesClaims claims = true := by
  rw [perform_validateGroup, perform_validateUnder, mapError_eq_ok_iff,
    Decision.answer_eq_ok_true_iff, judge_admits_iff]

end Provider

end SessionGate
