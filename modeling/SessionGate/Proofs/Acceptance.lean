import SessionGate.Proofs.Admission
import SessionGate.Proofs.ClaimChecks
import SessionGate.Proofs.SignedClaims

/-!
# Which tokens are accepted

A token is accepted when it is signed and its claims pass the checks. The signature has nothing to
do with the time or with what is expected of claims, so everything about issuer, audience and expiry
is a question about one claim set: `Verifier.check_eq_ok_iff`.

## What is not asked

An issuer is asked for of every token. An audience and an expiry are asked for only of tokens that
name one: `Verifier.check_addressed` and `Provider.check_expiring` say what an accepted token is
like, and that a token without the claim is accepted for whatever audience, or from then on for all
time. Of the two tokens below one names all three claims, and one names its issuer only.
-/

namespace SessionGate

namespace Verifier

/-- Accepted is what is signed and as expected. -/
theorem check_eq_ok_iff {v : Verifier} {now : Int} {raw : Json} {claims : Members} :
    v.check now raw = .ok claims ↔
      v.signedClaims raw = .ok claims ∧ v.expectations.check now claims = .ok () := by
  rw [check, bind_eq_ok_iff]
  constructor
  · rintro ⟨signed, hsigned, h⟩
    cases hcheck : v.expectations.check now signed with
    | error fault => rw [hcheck] at h; cases h
    | ok _ => rw [hcheck] at h; cases h; exact ⟨hsigned, hcheck⟩
  · rintro ⟨hsigned, hcheck⟩
    exact ⟨claims, hsigned, by rw [hcheck]⟩

/-- What is signed depends on the keys and the algorithms only. -/
theorem signedClaims_congr {v v' : Verifier} (hkeys : v.keys = v'.keys)
    (halgorithms : v.algorithms = v'.algorithms) (raw : Json) :
    v.signedClaims raw = v'.signedClaims raw := by
  cases v
  cases v'
  cases hkeys
  cases halgorithms
  rfl

end Verifier

/-! ## Two tokens -/

def sampleModulus : String :=
  "1BHCobwvOlokpKukjP2yNOJHuoiH4wfSmSvHg1g9UeBJupuE24SIThopmwcVv6MSQsJpCgeVZCdVUIUtHmcIcR" ++
    "MaH9IIWp7M4K_lRZhQpuKQTsPB_b3hoWYwGYr17yZMXD5uPXtBT79iRtPXbwPI6BIueuWrnz7Z8pIm9sgAUZk"

def sampleKeys : Json :=
  .obj [("keys", .arr [.obj [("kty", .str "RSA"), ("kid", .str "k1"), ("e", .str "AQAB"),
    ("n", .str sampleModulus)]])]

/-- A verifier of tokens from one issuer for one audience. -/
def sampleVerifier : Verifier where
  keys := .document sampleKeys
  expectations := { issuer := some "https://idp", audience := some "access-layer" }

/-- A token that names its issuer and an email, and nothing else. -/
def bareToken : String :=
  "eyJhbGciOiJSUzI1NiIsImtpZCI6ImsxIn0." ++
    "eyJpc3MiOiJodHRwczovL2lkcCIsImVtYWlsIjoiYUBiIn0." ++
    "rJ1VubOrRE22ck1lUyGIwYwIJLZuUwQhrG_QvmvSMB6nkGJ2rUA9BSKjqbvZ__77ENdwINHPDrBUcTuXniaj1S" ++
    "BMPPYi8lIm9qgHtsKgC-75k8ZLGbtOA9bao-Ob1_jzw4zybCC-shzPxJxpoE7cw8wwb9BCCY2YkH8WnejnwGY"

def bareClaims : Members :=
  [("iss", .str "https://idp"), ("email", .str "a@b")]

/-- A token that names its issuer, its audience and its expiry. -/
def fullToken : String :=
  "eyJhbGciOiJSUzI1NiIsImtpZCI6ImsxIn0." ++
    "eyJpc3MiOiJodHRwczovL2lkcCIsImF1ZCI6WyJhY2Nlc3MtbGF5ZXIiXSwiZXhwIjoxODkzNDU2MDAwLCJlbW" ++
    "FpbCI6ImFAYiJ9." ++
    "X51c5ilQ2GZkLU9eRBZqkrgpW7dYYKRin6e6YUgWcNiW_E_G01g59Ty-01GUck6aR49U6biDHm500g_MI2wXJT" ++
    "Y26NxnWSRgm5V9d_oXyI5ELQkrSoXyOn8v1OBlj_aPb8gAkVYCKkN2Pxg75CT6j9uUkSWwv__EOyMSmDkBwLw"

def fullClaims : Members :=
  [("iss", .str "https://idp"), ("aud", .arr [.str "access-layer"]), ("exp", .int 1893456000),
    ("email", .str "a@b")]

theorem signedClaims_bareToken :
    sampleVerifier.signedClaims (.str bareToken) = .ok bareClaims :=
  Verifier.signedClaims_of_letters
    (Text.append_eq_ofList (Text.append_eq_ofList (Text.append_eq_ofList rfl rfl) rfl) rfl)
    (by decide +kernel)

theorem signedClaims_fullToken :
    sampleVerifier.signedClaims (.str fullToken) = .ok fullClaims :=
  Verifier.signedClaims_of_letters
    (Text.append_eq_ofList (Text.append_eq_ofList (Text.append_eq_ofList
      (Text.append_eq_ofList rfl rfl) rfl) rfl) rfl)
    (by decide +kernel)

theorem check_bareToken (now : Int) :
    sampleVerifier.check now (.str bareToken) = .ok bareClaims :=
  Verifier.check_eq_ok_iff.mpr ⟨signedClaims_bareToken, rfl⟩

theorem check_fullToken :
    sampleVerifier.check 1893456000 (.str fullToken) = .ok fullClaims :=
  Verifier.check_eq_ok_iff.mpr ⟨signedClaims_fullToken, rfl⟩

def sampleProvider : Provider where
  data := {
    clientId := "client"
    redeemUrl := "https://idp/token"
    validateUrl := "https://idp/userinfo" }
  verifier := sampleVerifier

def sampleSession (idToken : String) : Session where
  credentials := {
    accessToken := .str "access"
    idToken := .str idToken
    refreshToken := .str "refresh"
    expiresOn := .unset
    email := .str "a@b"
    email_isSet := rfl }
  version := 0

namespace Verifier

/-! ## Issuer and audience -/

def withAudience (v : Verifier) (audience : Option String) : Verifier :=
  { v with expectations := { v.expectations with audience } }

/-- **Whom an accepted token is from and for.** It names the issuer. It names the audience if it
names any, and if it names none, it is accepted for every audience. -/
theorem check_addressed {v : Verifier} {now : Int} {raw : Json} {claims : Members}
    (h : v.check now raw = .ok claims) :
    (∀ issuer, v.expectations.issuer = some issuer → claims.get? "iss" = some (.str issuer)) ∧
      (∀ audience, v.expectations.audience = some audience →
        ((∃ aud, claims.get? "aud" = some aud ∧ NamesAudience aud audience) ↔
          claims.has "aud" = true)) ∧
      (claims.has "aud" = false → ∀ audience,
        (v.withAudience audience).check now raw = .ok claims) := by
  obtain ⟨hsigned, hcheck⟩ := check_eq_ok_iff.mp h
  obtain ⟨hiat, hnbf, hexp, haud, hiss, hrest⟩ :=
    (Expectations.check_eq_ok_iff v.expectations now claims).mp hcheck
  refine ⟨(Expectations.checkIssuer_eq_ok_iff _ _).mp hiss, ?_, ?_⟩
  · intro audience haudience
    rw [Members.has_eq_true_iff]
    constructor
    · rintro ⟨aud, hget, -⟩
      exact ⟨aud, hget⟩
    · rintro ⟨aud, hget⟩
      have haccepts := (Expectations.checkAudience_eq_ok_iff _ _).mp haud
      exact ⟨aud, hget, haccepts audience aud haudience hget⟩
  · intro hnone audience
    rw [Members.has_eq_false_iff] at hnone
    have haud' : (v.withAudience audience).expectations.checkAudience claims = .ok () := by
      rw [Expectations.checkAudience_eq_ok_iff]
      intro _ aud _ hget
      rw [hnone] at hget
      cases hget
    have hsigned' : (v.withAudience audience).signedClaims raw = .ok claims :=
      (signedClaims_congr rfl rfl raw).trans hsigned
    exact check_eq_ok_iff.mpr ⟨hsigned', (Expectations.check_eq_ok_iff _ _ _).mpr
      ⟨hiat, hnbf, hexp, haud', hiss, hrest⟩⟩

theorem check_addressed_fullToken :
    sampleVerifier.check 1893456000 (.str fullToken) = .ok fullClaims ∧
      fullClaims.get? "iss" = some (.str "https://idp") ∧
      ∃ aud, fullClaims.get? "aud" = some aud ∧ NamesAudience aud "access-layer" := by
  obtain ⟨hissuer, haudience, -⟩ := check_addressed check_fullToken
  exact ⟨check_fullToken, hissuer "https://idp" rfl, (haudience "access-layer" rfl).mpr rfl⟩

/-- Somebody who expects an audience is not protected from a token that names none. -/
theorem check_bareToken_unaddressed :
    sampleVerifier.expectations.audience = some "access-layer" ∧
      sampleVerifier.check 0 (.str bareToken) = .ok bareClaims ∧
      ¬∃ aud, bareClaims.get? "aud" = some aud ∧ NamesAudience aud "access-layer" := by
  refine ⟨rfl, check_bareToken 0, ?_⟩
  rintro ⟨aud, hget, -⟩
  cases hget

/-! ## Expiry -/

theorem expiry_of_check {v : Verifier} {now : Int} {raw : Json} {claims : Members}
    (h : v.check now raw = .ok claims) :
    claims.get? "exp" = none ∨ Unexpired claims v.expectations.leeway now := by
  obtain ⟨-, hcheck⟩ := check_eq_ok_iff.mp h
  obtain ⟨-, -, hexp, -⟩ := (Expectations.check_eq_ok_iff _ _ _).mp hcheck
  exact (Expectations.checkExpiry_eq_ok_iff _ _ _).mp hexp

/-- An accepted token has not expired, provided that it has an expiry. -/
theorem unexpired_iff_of_check {v : Verifier} {now : Int} {raw : Json} {claims : Members}
    (h : v.check now raw = .ok claims) :
    Unexpired claims v.expectations.leeway now ↔ claims.has "exp" = true := by
  rw [Members.has_eq_true_iff]
  constructor
  · rintro ⟨e, n, hget, -⟩
    exact ⟨e, hget⟩
  · rintro ⟨e, hget⟩
    rcases expiry_of_check h with hnone | hunexpired
    · rw [hnone] at hget
      cases hget
    · exact hunexpired

/-- A token with an expiry is accepted until then and for the leeway. -/
theorem le_of_check {v : Verifier} {now : Int} {raw : Json} {claims : Members} {e : Json} {n : Int}
    (h : v.check now raw = .ok claims) (hget : claims.get? "exp" = some e)
    (hn : e.toInteger = .ok n) : now ≤ n + v.expectations.leeway := by
  rcases expiry_of_check h with hnone | ⟨e', n', hget', hn', hle⟩
  · rw [hnone] at hget
    cases hget
  · rw [hget] at hget'
    cases hget'
    rw [hn] at hn'
    cases hn'
    omega

/-- A token that is accepted and has no expiry is accepted from then on. -/
theorem check_later {v : Verifier} {now later : Int} {raw : Json} {claims : Members}
    (h : v.check now raw = .ok claims) (hnone : claims.has "exp" = false) (hle : now ≤ later) :
    v.check later raw = .ok claims := by
  obtain ⟨hsigned, hcheck⟩ := check_eq_ok_iff.mp h
  obtain ⟨hiat, hnbf, -, hrest⟩ := (Expectations.check_eq_ok_iff _ _ _).mp hcheck
  have hnbf' : v.expectations.checkNotBefore later claims = .ok () := by
    rw [Expectations.checkNotBefore_eq_ok_iff] at hnbf ⊢
    rcases hnbf with hnone | ⟨e, n, hget, hn, hbefore⟩
    · exact .inl hnone
    · exact .inr ⟨e, n, hget, hn, by omega⟩
  have hexp' : v.expectations.checkExpiry later claims = .ok () :=
    (Expectations.checkExpiry_eq_ok_iff _ _ _).mpr
      (.inl ((Members.has_eq_false_iff _ _).mp hnone))
  exact check_eq_ok_iff.mpr
    ⟨hsigned, (Expectations.check_eq_ok_iff _ _ _).mpr ⟨hiat, hnbf', hexp', hrest⟩⟩

end Verifier

namespace Provider

/-- There is a second after which the identity token of a session is never accepted, and the session
is neither valid nor let in by a policy that restricts. -/
def Lapses (p : Provider) (s : Session) : Prop :=
  ∃ last : Int,
    (∀ now claims, last < now → p.verifier.check now s.idToken ≠ .ok claims) ∧
      ∀ w : World, last < w.now.seconds →
        ((p.validateSession s).perform w).1 ≠ .ok true ∧
          (w.policy.restricts = true → ((p.validateGroup s).perform w).1 ≠ .ok true)

/-- Validity and admission end with acceptance. -/
theorem lapses_of_check_ne {p : Provider} {s : Session} (last : Int)
    (h : ∀ now claims, last < now → p.verifier.check now s.idToken ≠ .ok claims) :
    p.Lapses s := by
  refine ⟨last, h, fun w hlater ↦ ⟨?_, fun hrestricts ↦ ?_⟩⟩
  · rw [Ne, validateSession_eq_ok_true_iff]
    rintro ⟨claims, hcheck⟩
    exact h _ claims hlater hcheck
  · rw [Ne, validateGroup_eq_ok_true_iff, hrestricts]
    rintro (hfree | ⟨claims, hcheck, -⟩)
    · cases hfree
    · exact h _ claims hlater hcheck

/-- **When an accepted token expires.** What is accepted has not expired if it has an expiry; and
the session of a token lapses exactly if the token has an expiry whenever it is accepted. -/
theorem check_expiring (p : Provider) (s : Session) :
    (∀ now claims, p.verifier.check now s.idToken = .ok claims →
      (Unexpired claims p.verifier.expectations.leeway now ↔ claims.has "exp" = true)) ∧
      (p.Lapses s ↔ ∀ now claims, p.verifier.check now s.idToken = .ok claims →
        claims.has "exp" = true) := by
  refine ⟨fun now claims h ↦ Verifier.unexpired_iff_of_check h, ?_, fun h ↦ ?_⟩
  · -- without an expiry the token would be accepted after the last second too
    rintro ⟨last, hlast, -⟩ now claims hcheck
    cases hexp : claims.has "exp" with
    | true => rfl
    | false =>
      have hlater := Verifier.check_later hcheck hexp (Int.le_max_left now (last + 1))
      exact absurd hlater (hlast _ claims (by omega))
  · by_cases hever : ∃ now claims, p.verifier.check now s.idToken = .ok claims
    · obtain ⟨now, claims, hcheck⟩ := hever
      have hunexpired := (Verifier.unexpired_iff_of_check hcheck).mpr (h now claims hcheck)
      obtain ⟨e, n, hget, hn, -⟩ := hunexpired
      refine lapses_of_check_ne (n + p.verifier.expectations.leeway) ?_
      intro later claims' hlt hlater
      -- what is signed is the same at both times
      have hsame := (Verifier.check_eq_ok_iff.mp hcheck).1.symm.trans
        (Verifier.check_eq_ok_iff.mp hlater).1
      cases hsame
      exact Int.not_le.mpr hlt (Verifier.le_of_check hlater hget hn)
    · exact lapses_of_check_ne 0 fun now claims _ hcheck ↦ hever ⟨now, claims, hcheck⟩

theorem check_expiring_fullToken :
    Unexpired fullClaims 0 1893456000 ∧
      sampleProvider.Lapses (sampleSession fullToken) := by
  obtain ⟨hunexpired, hlapses⟩ :=
    check_expiring sampleProvider (sampleSession fullToken)
  refine ⟨(hunexpired _ _ check_fullToken).mpr rfl, hlapses.mpr fun now claims hcheck ↦ ?_⟩
  cases signedClaims_fullToken.symm.trans (Verifier.check_eq_ok_iff.mp hcheck).1
  rfl

/-- A token that names no expiry is accepted on the last day of the calendar, and on no day does it
lapse. -/
theorem check_bareToken_unending :
    sampleProvider.verifier.check 253402214400 (.str bareToken) = .ok bareClaims ∧
      ¬Unexpired bareClaims 0 253402214400 ∧
      ¬sampleProvider.Lapses (sampleSession bareToken) := by
  refine ⟨check_bareToken 253402214400, ?_, ?_⟩
  · rintro ⟨e, n, hget, -⟩
    cases hget
  · rintro ⟨last, hlast, -⟩
    exact hlast (last + 1) bareClaims (Int.lt_succ last) (check_bareToken (last + 1))

end Provider

end SessionGate
