import SessionGate.Proofs.Provenance

/-!
# Which bundles make a session

A projection decides who somebody is. It wants an identity token that verifies, and an email in the
claims that the claims vouch for: `Members.VouchesFor`. What is asked of a bundle is put together in
`Provider.Accepts`, and `Session.ConsistsOf` says what the session has from it.
`Provider.createSession_accepts` goes both ways: the bundles that are accepted make a session, one
each, and no others do.

## Silence about the email

Claims may say nothing about whether the email is verified, and a null says nothing either. Only
then does it matter whether the provider requires a word. Whatever else they say is no: a number, a
text or a list is no truth value, however true it may count elsewhere.
-/

namespace SessionGate

/-! ## Claims -/

/-- Claims name an email and say that it is verified, or say nothing about that where it is not
required. -/
structure Members.VouchesFor (claims : Members) (isRequired : Bool) (email : Text) : Prop where
  named : claims.get? "email" = some (.str email)
  named_ne : email ≠ ""
  verified : claims.get? "email_verified" = some (.bool true) ∨
    (claims.get? "email_verified" = none ∨ claims.get? "email_verified" = some .null) ∧
      isRequired = false

namespace Members.VouchesFor

variable {claims : Members} {isRequired : Bool} {email : Text}

/-- What is enough where a word is required is enough where none is. -/
theorem relax (h : VouchesFor claims true email) : VouchesFor claims false email where
  named := h.named
  named_ne := h.named_ne
  verified := h.verified.imp_right fun hsilent ↦ ⟨hsilent.1, rfl⟩

/-- Nothing but the truth value is a yes. -/
theorem verified_eq {verified : Json} (h : VouchesFor claims isRequired email)
    (hget : claims.get? "email_verified" = some verified) :
    verified = .bool true ∨ verified = .null := by
  rcases h.verified with htrue | ⟨hnone | hnull, -⟩
  · exact .inl (Option.some.inj (hget.symm.trans htrue))
  · exact absurd (hget.symm.trans hnone) (Option.some_ne_none _)
  · exact .inr (Option.some.inj (hget.symm.trans hnull))

end Members.VouchesFor

/-! ## Sessions -/

/-- A new session has the tokens of a bundle, its expiry and an email. -/
structure Session.ConsistsOf (s : Session) (bundle : TokenBundle) (idToken email : Text) :
    Prop where
  accessToken : s.accessToken = .str bundle.accessToken
  idToken : s.idToken = .str idToken
  refreshToken : s.refreshToken = bundle.refreshToken
  expiresOn : s.expiresOn = Provider.expiryOf bundle
  email : s.email = .str email
  version : s.version = 0

/-- Nothing else is in a session. -/
theorem Session.ConsistsOf.eq {s t : Session} {bundle : TokenBundle} {idToken email : Text}
    (hs : s.ConsistsOf bundle idToken email) (ht : t.ConsistsOf bundle idToken email) :
    s = t := by
  obtain ⟨⟨_, _, _, _, _, _⟩, _⟩ := s
  obtain ⟨⟨_, _, _, _, _, _⟩, _⟩ := t
  obtain ⟨rfl, rfl, rfl, rfl, rfl, rfl⟩ := hs
  obtain ⟨rfl, rfl, rfl, rfl, rfl, rfl⟩ := ht
  rfl

theorem Session.exists_consistsOf {email : Text} (h : email ≠ "") (bundle : TokenBundle)
    (idToken : Text) : ∃ s : Session, s.ConsistsOf bundle idToken email :=
  ⟨⟨⟨.str bundle.accessToken, .str idToken, bundle.refreshToken, Provider.expiryOf bundle,
    .str email, by simpa [Json.isSet] using h⟩, 0⟩, rfl, rfl, rfl, rfl, rfl, rfl⟩

/-! ## Bundles -/

namespace Provider

/-- The identity token of a bundle verifies, and its claims vouch for an email. -/
structure Accepts (p : Provider) (now : Int) (bundle : TokenBundle) (idToken email : Text) :
    Prop where
  carried : bundle.extra.get? "id_token" = some (.str idToken)
  carried_ne : idToken ≠ ""
  vouched : ∃ claims, p.verifier.check now (.str idToken) = .ok claims ∧
    Members.VouchesFor claims p.data.requireEmailVerified email

/-- The provider, requiring or not that claims say whether the email is verified. -/
def requiring (p : Provider) (isRequired : Bool) : Provider :=
  { p with data := { p.data with requireEmailVerified := isRequired } }

variable {p : Provider} {now : Int} {bundle : TokenBundle} {s : Session} {idToken email : Text}

theorem sessionOf_eq_ok_iff {claims : Members} :
    p.sessionOf bundle idToken claims = .ok s ↔
      ∃ email, Members.VouchesFor claims p.data.requireEmailVerified email ∧
        s.ConsistsOf bundle idToken email := by
  cases hemail : (claims.get "email").nonEmptyStr? with
  | none =>
    rw [sessionOf, hemail]
    constructor
    · intro h
      cases h
    · rintro ⟨email, hvouches, -⟩
      rw [Members.nonEmptyStr?_get_iff.mpr ⟨hvouches.named, hvouches.named_ne⟩] at hemail
      cases hemail
  | some email =>
    obtain ⟨hget, hne⟩ := Members.nonEmptyStr?_get_iff.mp hemail
    have hset : (Json.str email).isSet = true := by simpa [Json.isSet] using hne
    rw [sessionOf, hemail]
    by_cases hverified : p.data.emailVerified claims = true
    · simp only [if_pos hverified, Session.make, dif_pos hset]
      constructor
      · intro h
        cases h
        exact ⟨email, ⟨hget, hne, ProviderData.emailVerified_eq_true_iff.mp hverified⟩,
          rfl, rfl, rfl, rfl, rfl, rfl⟩
      · rintro ⟨other, hvouches, hconsists⟩
        cases hget.symm.trans hvouches.named
        exact congrArg Except.ok (Session.ConsistsOf.eq ⟨rfl, rfl, rfl, rfl, rfl, rfl⟩ hconsists)
    · simp only [if_neg hverified]
      constructor
      · intro h
        cases h
      · rintro ⟨other, hvouches, -⟩
        exact absurd (ProviderData.emailVerified_eq_true_iff.mpr hvouches.verified) hverified

/-- An accepted bundle makes one session, and no other bundle makes any. -/
theorem project_eq_ok_iff :
    p.project now bundle = .ok s ↔
      ∃ idToken email, p.Accepts now bundle idToken email ∧ s.ConsistsOf bundle idToken email := by
  constructor
  · intro h
    obtain ⟨idToken, claims, hid, hcheck, -⟩ := project_eq_ok h
    rw [project_of_check hid hcheck] at h
    obtain ⟨email, hvouches, hconsists⟩ := sessionOf_eq_ok_iff.mp h
    obtain ⟨hget, hne⟩ := Members.nonEmptyStr?_get_iff.mp hid
    exact ⟨idToken, email, ⟨hget, hne, claims, hcheck, hvouches⟩, hconsists⟩
  · rintro ⟨idToken, email, ⟨hget, hne, claims, hcheck, hvouches⟩, hconsists⟩
    rw [project_of_check (Members.nonEmptyStr?_get_iff.mpr ⟨hget, hne⟩) hcheck]
    exact sessionOf_eq_ok_iff.mpr ⟨email, hvouches, hconsists⟩

theorem createSession_eq_ok_iff {w : World} :
    ((p.createSession bundle).perform w).1 = .ok s ↔
      ∃ idToken email, p.Accepts w.now.seconds bundle idToken email ∧
        s.ConsistsOf bundle idToken email := by
  rw [perform_createSession]
  exact mapError_eq_ok_iff.trans project_eq_ok_iff

/-- What is accepted where a word is required is accepted where none is. -/
theorem Accepts.relax (h : (p.requiring true).Accepts now bundle idToken email) :
    (p.requiring false).Accepts now bundle idToken email := by
  obtain ⟨claims, hcheck, hvouches⟩ := h.vouched
  exact ⟨h.carried, h.carried_ne, claims, hcheck, hvouches.relax⟩

/-- The claims of the token that an accepted bundle carries vouch for its email. -/
theorem Accepts.vouchesFor {token : Text} {claims : Members}
    (h : p.Accepts now bundle idToken email)
    (hcarried : bundle.extra.get? "id_token" = some (.str token))
    (hcheck : p.verifier.check now (.str token) = .ok claims) :
    Members.VouchesFor claims p.data.requireEmailVerified email := by
  obtain ⟨claims', hcheck', hvouches⟩ := h.vouched
  cases hcarried.symm.trans h.carried
  cases hcheck.symm.trans hcheck'
  exact hvouches

/-- **Which bundles make a session.** A bundle makes a session exactly if it is accepted, and the
session then consists of it. A word about the email that is neither the truth value nor a null is a
no, whether a word is required or not. What is accepted where one is required makes the same session
where none is. -/
theorem createSession_accepts (p : Provider) (bundle : TokenBundle) (w : World) :
    (∀ s, ((p.createSession bundle).perform w).1 = .ok s ↔
      ∃ idToken email, p.Accepts w.now.seconds bundle idToken email ∧
        s.ConsistsOf bundle idToken email) ∧
    ((∃ s, ((p.createSession bundle).perform w).1 = .ok s) ↔
      ∃ idToken email, p.Accepts w.now.seconds bundle idToken email) ∧
    (∀ idToken claims verified, bundle.extra.get? "id_token" = some (.str idToken) →
      p.verifier.check w.now.seconds (.str idToken) = .ok claims →
      claims.get? "email_verified" = some verified → verified ≠ .bool true → verified ≠ .null →
      ∀ isRequired s, (((p.requiring isRequired).createSession bundle).perform w).1 ≠ .ok s) ∧
    ∀ s, (((p.requiring true).createSession bundle).perform w).1 = .ok s →
      (((p.requiring false).createSession bundle).perform w).1 = .ok s := by
  refine ⟨fun s ↦ createSession_eq_ok_iff, ⟨?_, ?_⟩, ?_, ?_⟩
  · rintro ⟨s, hs⟩
    obtain ⟨idToken, email, haccepts, -⟩ := createSession_eq_ok_iff.mp hs
    exact ⟨idToken, email, haccepts⟩
  · rintro ⟨idToken, email, haccepts⟩
    obtain ⟨claims, -, hvouches⟩ := haccepts.vouched
    obtain ⟨s, hconsists⟩ := Session.exists_consistsOf hvouches.named_ne bundle idToken
    exact ⟨s, createSession_eq_ok_iff.mpr ⟨idToken, email, haccepts, hconsists⟩⟩
  · intro idToken claims verified hcarried hcheck hget htrue hnull isRequired s hs
    obtain ⟨idToken', email, haccepts, -⟩ := createSession_eq_ok_iff.mp hs
    exact ((haccepts.vouchesFor hcarried hcheck).verified_eq hget).elim htrue hnull
  · intro s hs
    obtain ⟨idToken, email, haccepts, hconsists⟩ := createSession_eq_ok_iff.mp hs
    exact createSession_eq_ok_iff.mpr ⟨idToken, email, haccepts.relax, hconsists⟩

/-- A bundle with the identity token that says nothing about its email. -/
def silentBundle : TokenBundle where
  accessToken := "access"
  tokenType := .str "Bearer"
  refreshToken := .str "refresh"
  expiry := none
  extra := [("id_token", .str fullToken)]

theorem accepts_fullToken {bundle : TokenBundle}
    (h : bundle.extra.get? "id_token" = some (.str fullToken)) :
    (sampleProvider.requiring false).Accepts sampleMoment.seconds bundle fullToken "a@b" := by
  have hne : Text.plain fullToken ≠ "" := by decide +kernel
  exact ⟨h, hne, fullClaims, check_fullToken, rfl, by decide, .inr ⟨.inl rfl, rfl⟩⟩

theorem createSession_accepts_silentBundle :
    (∃ s, (((sampleProvider.requiring false).createSession silentBundle).perform
        { now := sampleMoment }).1 = .ok s ∧ s.email = .str "a@b" ∧ s.version = 0) ∧
      ¬∃ s, (((sampleProvider.requiring true).createSession silentBundle).perform
        { now := sampleMoment }).1 = .ok s := by
  obtain ⟨hmakes, hexists, -⟩ :=
    createSession_accepts (sampleProvider.requiring false) silentBundle { now := sampleMoment }
  obtain ⟨-, hnever, -⟩ :=
    createSession_accepts (sampleProvider.requiring true) silentBundle { now := sampleMoment }
  have haccepts : (sampleProvider.requiring false).Accepts sampleMoment.seconds silentBundle
      fullToken "a@b" := accepts_fullToken rfl
  constructor
  · obtain ⟨s, hs⟩ := hexists.mpr ⟨_, _, haccepts⟩
    obtain ⟨idToken, email, haccepted, hconsists⟩ := (hmakes s).mp hs
    have hvouches : fullClaims.VouchesFor false email :=
      haccepted.vouchesFor haccepts.carried check_fullToken
    cases hvouches.named
    exact ⟨s, hs, hconsists.email, hconsists.version⟩
  · rw [hnever]
    rintro ⟨idToken, email, haccepted⟩
    have hvouches : fullClaims.VouchesFor true email :=
      haccepted.vouchesFor haccepts.carried check_fullToken
    rcases hvouches.verified with htrue | ⟨-, hrequired⟩
    · cases htrue
    · cases hrequired

end Provider

end SessionGate
