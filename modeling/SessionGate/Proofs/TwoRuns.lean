import SessionGate.Proofs.Trade
import SessionGate.Proofs.Traces

/-!
# Two runs side by side

Two actions are alike if they give the same result in worlds that are related, and leave worlds that
are related again: `Action.Alike`. What one action does in two worlds and what two actions do in one
world are both of this form, so a statement about two runs is proved along the lines of an
operation, with one rule for each way of building an action. Where the values may differ in
something, `Action.AlikeUpTo` says in what.

## What the relation has to provide

Operations look at the clock, the sessions and the policy, and they write, count and keep sessions.
A relation of worlds that these do not tell apart is a `World.Likeness`. Sending a request is left
out of it: what is sent may differ, and it is for the relation to say how.
-/

namespace SessionGate

/-- A relation of worlds that the operations do not tell apart, apart from what they send. -/
structure World.Likeness (R : World → World → Prop) : Prop where
  now : ∀ {w v}, R w v → w.now = v.now
  sessions : ∀ {w v}, R w v → w.sessions = v.sessions
  policy : ∀ {w v}, R w v → w.policy = v.policy
  write : ∀ {w v}, R w v → ∀ entry, R (w.written [entry]) (v.written [entry])
  keep : ∀ {w v}, R w v → ∀ ss, R { w with sessions := ss } { v with sessions := ss }
  count : ∀ {w v}, R w v → ∀ key f, R { w with collectors := w.collectors.update key f }
    { v with collectors := v.collectors.update key f }
  name : ∀ {w v}, R w v → ∀ user, R { w with journal := w.journal.setUser user }
    { v with journal := v.journal.setUser user }

theorem World.Likeness.written {R : World → World → Prop} (hR : World.Likeness R)
    (entries : List LogEntry) {w v : World} (h : R w v) :
    R (w.written entries) (v.written entries) := by
  induction entries generalizing w v with
  | nil => exact h
  | cons entry entries ih => exact ih (hR.write h entry)

namespace Action

variable {α β γ δ : Type} {R : World → World → Prop}

/-- Two results agree if both are the same failure, or values of which something holds. -/
inductive Agree {ε : Type} (V : α → β → Prop) : Except ε α → Except ε β → Prop where
  | ok {a : α} {b : β} (h : V a b) : Agree V (.ok a) (.ok b)
  | error (failure : ε) : Agree V (.error failure) (.error failure)

section Agree

variable {ε ε' : Type} {V : α → β → Prop} {x : Except ε α} {y : Except ε β}

theorem agree_refl (result : Except ε α) : Agree Eq result result := by
  cases result with
  | error failure => exact .error failure
  | ok a => exact .ok rfl

theorem Agree.eq {x y : Except ε α} (h : Agree Eq x y) : x = y := by
  cases h with
  | error failure => rfl
  | ok h => rw [h]

theorem Agree.mapError (f : ε → ε') (h : Agree V x y) :
    Agree V (x.mapError f) (y.mapError f) := by
  cases h with
  | error failure => exact .error (f failure)
  | ok h => exact .ok h

theorem Agree.bind {U : γ → δ → Prop} {f : α → Except ε γ} {g : β → Except ε δ} (h : Agree V x y)
    (hf : ∀ a b, V a b → Agree U (f a) (g b)) : Agree U (x >>= f) (y >>= g) := by
  cases h with
  | error failure => exact .error failure
  | ok h => exact hf _ _ h

end Agree

/-- Two actions have results that agree in related worlds, and leave related worlds. -/
def AlikeUpTo (V : α → β → Prop) (R : World → World → Prop) (x : Action α) (y : Action β) : Prop :=
  ∀ w v, R w v → Agree V (x.perform w).1 (y.perform v).1 ∧ R (x.perform w).2 (y.perform v).2

/-- Two actions have the same result in related worlds, and leave related worlds. -/
def Alike (R : World → World → Prop) (x y : Action α) : Prop :=
  AlikeUpTo Eq R x y

/-! ## Ways of building an action -/

section Rules

/-- What is alike may begin with something that agrees in two worlds and not in all. -/
theorem agree_perform_bind {V : α → β → Prop} {U : γ → δ → Prop} {x : Action α} {y : Action β}
    {f : α → Action γ} {g : β → Action δ} {w v : World}
    (hx : Agree V (x.perform w).1 (y.perform v).1 ∧ R (x.perform w).2 (y.perform v).2)
    (hf : ∀ a b, V a b → AlikeUpTo U R (f a) (g b)) :
    Agree U ((x >>= f).perform w).1 ((y >>= g).perform v).1 ∧
      R ((x >>= f).perform w).2 ((y >>= g).perform v).2 := by
  rw [perform_bind, perform_bind]
  generalize x.perform w = done at hx ⊢
  generalize y.perform v = done' at hx ⊢
  obtain ⟨result, after⟩ := done
  obtain ⟨result', after'⟩ := done'
  obtain ⟨hresult, hworld⟩ := hx
  cases hresult with
  | error failure => exact ⟨.error failure, hworld⟩
  | ok hab => exact hf _ _ hab after after' hworld

theorem AlikeUpTo.bind {V : α → β → Prop} {U : γ → δ → Prop} {x : Action α} {y : Action β}
    {f : α → Action γ} {g : β → Action δ} (hx : AlikeUpTo V R x y)
    (hf : ∀ a b, V a b → AlikeUpTo U R (f a) (g b)) : AlikeUpTo U R (x >>= f) (y >>= g) :=
  fun w v h ↦ agree_perform_bind (hx w v h) hf

theorem AlikeUpTo.mapError {V : α → β → Prop} {x : Action α} {y : Action β}
    (change : AccessError → AccessError) (hx : AlikeUpTo V R x y) :
    AlikeUpTo V R (mapError change x) (mapError change y) := by
  intro w v h
  obtain ⟨hresult, hworld⟩ := hx w v h
  rw [perform_mapError, perform_mapError]
  exact ⟨hresult.mapError _, hworld⟩

/-- Two actions that do nothing to the world. -/
theorem alikeUpTo_of_results {V : α → β → Prop} {x : Action α} {y : Action β}
    {result : Except Failure α} {result' : Except Failure β}
    (hx : ∀ w, x.perform w = (result, w)) (hy : ∀ w, y.perform w = (result', w))
    (h : Agree V result result') : AlikeUpTo V R x y := by
  intro w v hR
  rw [hx, hy]
  exact ⟨h, hR⟩

variable {x y : Action α} {f g : α → Action β}

theorem Alike.bind (hx : Alike R x y) (hf : ∀ a, Alike R (f a) (g a)) :
    Alike R (x >>= f) (y >>= g) :=
  AlikeUpTo.bind hx fun a _ hab ↦ hab ▸ hf a

theorem Alike.tryCatch {handle handle' : Failure → Action α} (hx : Alike R x y)
    (hhandle : ∀ failure, Alike R (handle failure) (handle' failure)) :
    Alike R (tryCatch x handle) (tryCatch y handle') := by
  intro w v h
  have hdone := hx w v h
  rw [perform_tryCatch, perform_tryCatch]
  generalize x.perform w = done at hdone ⊢
  generalize y.perform v = done' at hdone ⊢
  obtain ⟨result, after⟩ := done
  obtain ⟨result', after'⟩ := done'
  obtain ⟨hresult, hworld⟩ := hdone
  cases hresult with
  | error failure => exact hhandle failure after after' hworld
  | ok hab => exact ⟨.ok hab, hworld⟩

theorem Alike.mapError (change : AccessError → AccessError) (hx : Alike R x y) :
    Alike R (mapError change x) (mapError change y) :=
  AlikeUpTo.mapError change hx

/-- Where the world itself is looked at, what follows may depend on which of the two it is. -/
theorem Alike.get {f : World → Action β} (hf : ∀ w v, R w v → Alike R (f w) (f v)) :
    Alike R (get >>= f) (get >>= f) := by
  intro w v h
  rw [perform_bind, perform_bind]
  exact hf w v h w v h

theorem alike_of_result {result : Except Failure α} (hx : ∀ w, x.perform w = (result, w)) :
    Alike R x x :=
  alikeUpTo_of_results hx hx (agree_refl result)

theorem alike_pure (a : α) : Alike R (pure a : Action α) (pure a) :=
  alike_of_result fun _ ↦ rfl

theorem alike_refuse (error : AccessError) : Alike R (refuse error : Action α) (refuse error) :=
  alike_of_result fun _ ↦ rfl

theorem alike_escape (defect : Defect) : Alike R (escape defect : Action α) (escape defect) :=
  alike_of_result fun _ ↦ rfl

theorem alike_lift (result : Except Failure α) : Alike R (lift result) (lift result) :=
  alike_of_result (perform_lift result)

theorem alike_liftDefect (result : Except Defect α) :
    Alike R (liftDefect result) (liftDefect result) :=
  alike_of_result (perform_liftDefect result)

end Rules

section Likeness

variable (hR : World.Likeness R)
include hR

theorem alike_now : Alike R now now :=
  fun _ _ h ↦ ⟨.ok (hR.now h), h⟩

theorem alike_log (entry : LogEntry) : Alike R (log entry) (log entry) :=
  fun _ _ h ↦ ⟨.ok rfl, hR.write h entry⟩

theorem alike_logAll (entries : List LogEntry) : Alike R (logAll entries) (logAll entries) :=
  fun _ _ h ↦ ⟨.ok rfl, hR.written entries h⟩

theorem alike_count (key : CollectorKey) (f : Collector → Collector) :
    Alike R (count key f) (count key f) :=
  fun _ _ h ↦ ⟨.ok rfl, hR.count h key f⟩

theorem alike_session (name : String) : Alike R (session name) (session name) := by
  intro w v h
  rw [perform_session, perform_session, hR.sessions h]
  cases v.sessions.get? name with
  | none => exact ⟨.error _, h⟩
  | some s => exact ⟨.ok rfl, h⟩

theorem alike_setSession (name : String) (s : Session) :
    Alike R (setSession name s) (setSession name s) := by
  intro w v h
  rw [perform_setSession, perform_setSession, hR.sessions h]
  exact ⟨.ok rfl, hR.keep h _⟩

end Likeness

end Action

open SessionGate.Action

/-! ## The endpoints of a provider -/

section Likeness

variable {R : World → World → Prop} (hR : World.Likeness R)
include hR

/-- Two exchanges are alike if what they send is: in the report, a grant is its name. -/
theorem TokenEndpoint.alike_exchange {e e' : TokenEndpoint} {grant grant' : Grant}
    (hurl : e.url = e'.url) (hname : grant.name = grant'.name)
    (hsend : Alike R (send (e.request grant)) (send (e'.request grant'))) :
    Alike R (e.exchange grant) (e'.exchange grant') := by
  have hfield : grantField grant = grantField grant' := by rw [grantField, grantField, hname]
  refine hsend.bind fun reply ↦ (alike_now hR).bind fun now ↦ ?_
  have hreport : report grant now reply = report grant' now reply := by
    cases reply with
    | error fault => rw [report, report, hfield]
    | ok response =>
      rw [report, report]
      unfold entries
      rw [hfield]
  have hconclude : e.conclude now reply = e'.conclude now reply := by
    cases reply with
    | error fault => rw [conclude, conclude, unreachable, unreachable, hurl]
    | ok response => rfl
  rw [hreport, hconclude]
  exact (alike_logAll hR _).bind fun _ ↦ alike_lift _

theorem Userinfo.alike_fetchEmail {u : Userinfo} {token : Json}
    (hsend : Alike R (send (u.request token)) (send (u.request token))) :
    Alike R (u.fetchEmail token) (u.fetchEmail token) := by
  refine hsend.bind fun reply ↦ ?_
  cases reply with
  | error fault => exact (alike_log hR _).bind fun _ ↦ alike_refuse _
  | ok response => exact (alike_logAll hR _).bind fun _ ↦ alike_lift _

end Likeness

/-! ## Operations of a provider -/

namespace Provider

def withSecret (p : Provider) (secret : Text) : Provider :=
  { p with data := { p.data with clientSecret := secret } }

/-- What is sent for a grant by providers that differ in their secrets is alike. -/
def SendsAlike (R : World → World → Prop) (p : Provider) (secret secret' : Text)
    (grant grant' : Grant) : Prop :=
  Alike R (send ((p.withSecret secret).data.tokenEndpoint.request grant))
    (send ((p.withSecret secret').data.tokenEndpoint.request grant'))

variable {R : World → World → Prop} (hR : World.Likeness R) (p : Provider) (secret secret' : Text)
include hR

theorem alike_createSession (bundle : TokenBundle) :
    Alike R ((p.withSecret secret).createSession bundle)
      ((p.withSecret secret').createSession bundle) := by
  refine (alike_now hR).bind fun now ↦ ?_
  have hproject : (p.withSecret secret).project now.seconds bundle =
      (p.withSecret secret').project now.seconds bundle := rfl
  rw [hproject]
  cases (p.withSecret secret').project now.seconds bundle with
  | ok s => exact alike_pure s
  | error fault => exact (alike_logAll hR _).bind fun _ ↦ alike_lift _

variable {secret secret'}

theorem alike_trade {grant grant' : Grant} (f : AccessError → AccessError)
    (hname : grant.name = grant'.name) (hsend : SendsAlike R p secret secret' grant grant') :
    Alike R ((p.withSecret secret).trade grant f) ((p.withSecret secret').trade grant' f) := by
  have hexchange : Alike R ((p.withSecret secret).data.tokenEndpoint.exchange grant)
      ((p.withSecret secret').data.tokenEndpoint.exchange grant') :=
    TokenEndpoint.alike_exchange hR rfl hname hsend
  exact (hexchange.mapError f).bind fun bundle ↦
    (alike_createSession hR p secret secret' bundle).mapError updateError

theorem alike_redeem {redirectUrl code code' : Text}
    (hsend : SendsAlike R p secret secret' (.code code redirectUrl) (.code code' redirectUrl)) :
    Alike R ((p.withSecret secret).redeem redirectUrl code)
      ((p.withSecret secret').redeem redirectUrl code') :=
  alike_trade hR p redeemError rfl hsend

variable (hsend : ∀ token, SendsAlike R p secret secret' (.refresh token) (.refresh token))

include hsend in
theorem alike_refreshSession (name : Option String) :
    Alike R ((p.withSecret secret).refreshSession name)
      ((p.withSecret secret').refreshSession name) := by
  cases name with
  | none => exact alike_pure none
  | some name =>
    refine (alike_session hR name).bind fun s ↦ (alike_now hR).bind fun now ↦
      (alike_liftDefect _).bind fun begun ↦ ?_
    cases begun with
    | none => exact alike_pure none
    | some pending =>
      refine (alike_trade hR p refreshError rfl (hsend pending.refreshToken)).bind fun fresh ↦ ?_
      exact (alike_session hR name).bind fun landed ↦ alike_pure _

include hsend in
theorem alike_refreshIfNeeded (name : Option String) :
    Alike R ((p.withSecret secret).refreshIfNeeded name)
      ((p.withSecret secret').refreshIfNeeded name) := by
  cases name with
  | none => exact alike_pure false
  | some name =>
    refine (alike_session hR name).bind fun before ↦ (alike_now hR).bind fun now ↦
      (alike_liftDefect _).bind fun begun ↦ ?_
    cases begun with
    | none => exact alike_pure false
    | some pending =>
      refine (alike_trade hR p refreshError rfl (hsend pending.refreshToken)).bind fun fresh ↦ ?_
      refine (alike_session hR name).bind fun landed ↦ ?_
      cases pending.finish landed fresh with
      | error error => exact alike_refuse error
      | ok after =>
        exact (alike_setSession hR name after).bind fun _ ↦ (alike_liftDefect _).bind fun _ ↦
          (alike_liftDefect _).bind fun _ ↦ (alike_log hR _).bind fun _ ↦ alike_pure true

theorem alike_validateSession (s : Session) :
    Alike R ((p.withSecret secret).validateSession s)
      ((p.withSecret secret').validateSession s) := by
  refine (alike_now hR).bind fun now ↦ ?_
  have hverifier : (p.withSecret secret).verifier = (p.withSecret secret').verifier := rfl
  rw [hverifier]
  cases (p.withSecret secret').verifier.check now.seconds s.idToken with
  | ok claims => exact alike_pure true
  | error fault =>
    refine (alike_logAll hR _).bind fun _ ↦ ?_
    cases fault.toFailure with
    | refused error => exact alike_pure false
    | defect defect => exact alike_escape defect

theorem alike_validateGroup (s : Session) :
    Alike R ((p.withSecret secret).validateGroup s) ((p.withSecret secret').validateGroup s) := by
  refine Alike.get fun w v h ↦ ?_
  rw [hR.policy h]
  refine (alike_now hR).bind fun now ↦ ?_
  have hjudge : (p.withSecret secret).judge v.policy now.seconds s.idToken =
      (p.withSecret secret').judge v.policy now.seconds s.idToken := rfl
  rw [hjudge]
  exact (alike_logAll hR _).bind fun _ ↦ alike_liftDefect _

theorem alike_emailAddress {s : Session}
    (hsend : Alike R (send (p.data.userinfo.request s.accessToken))
      (send (p.data.userinfo.request s.accessToken))) :
    Alike R ((p.withSecret secret).emailAddress s) ((p.withSecret secret').emailAddress s) :=
  Userinfo.alike_fetchEmail hR hsend

end Provider

end SessionGate
