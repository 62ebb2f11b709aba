import SessionGate.Proofs.Acceptance

/-!
# When a token is accepted

Of all the questions about a token two are about the time: whether it is valid yet, and whether it
has expired. `Expectations.Within` says that both are answered well, and `Expectations.Suits` that
all others are; the clock plays no part in the latter, and the leeway none either. So a token is
accepted in one stretch of time without a gap, with the same claims throughout, and a larger leeway
only makes it longer: `Verifier.check_between`.

## Which way the bounds point

The claims hold from `nbf` on, which the leeway puts earlier, and up to `exp`, which it puts later.
Each bound is a whole number that is read from its claim, however the claim spells it, and the clock
is rounded down to a whole second. Rounding keeps the order of moments, so that it does no harm.
-/

namespace SessionGate

/-- Moments in order are seconds in order. -/
theorem Moment.seconds_mono {a b : Moment} (h : a.instant ≤ b.instant) : a.seconds ≤ b.seconds :=
  Int.ediv_le_ediv (by decide) h

namespace Expectations

/-! ## Times and other claims -/

/-- The second lies between the times that the claims name, give or take the leeway. -/
structure Within (claims : Members) (leeway now : Int) : Prop where
  begun : ∀ v n, claims.get? "nbf" = some v → v.toInteger = .ok n → n - leeway ≤ now
  unexpired : ∀ v n, claims.get? "exp" = some v → v.toInteger = .ok n → now ≤ n + leeway

/-- A claim is a time if it is there. -/
def HasTime (claims : Members) (name : String) : Prop :=
  ∀ v, claims.get? name = some v → ∃ n, v.toInteger = .ok n

/-- The claims are as expected at some time or other: their times are times, they are from the
issuer and for the audience, and their texts are texts. -/
structure Suits (e : Expectations) (claims : Members) : Prop where
  issuedAt : HasTime claims "iat"
  notBefore : HasTime claims "nbf"
  expiry : HasTime claims "exp"
  audience : e.checkAudience claims = .ok ()
  issuer : e.checkIssuer claims = .ok ()
  subject : checkText claims "sub" .subjectForm = .ok ()
  tokenId : checkText claims "jti" .tokenIdForm = .ok ()

theorem checkIssuedAt_eq_ok_iff {claims : Members} :
    checkIssuedAt claims = .ok () ↔ HasTime claims "iat" := by
  rw [checkIssuedAt]
  constructor
  · intro h v hv
    rcases htime : time? claims "iat" .issuedAtForm with fault | _ | n
    · rw [htime] at h
      cases h
    · rw [time?_eq_ok_none_iff.mp htime] at hv
      cases hv
    · obtain ⟨u, hu, hn⟩ := time?_eq_ok_some htime
      rw [hv] at hu
      cases hu
      exact ⟨n, hn⟩
  · intro h
    cases hv : claims.get? "iat" with
    | none => rw [time?_eq_ok_none_iff.mpr hv]; rfl
    | some v =>
      obtain ⟨n, hn⟩ := h v hv
      rw [time?_of_toInteger .issuedAtForm hv hn]
      rfl

/-- A time that is there and within bounds, or none that is there. -/
theorem absent_or_time_iff {claims : Members} {name : String} {p : Int → Prop} :
    (claims.get? name = none ∨
        ∃ v n, claims.get? name = some v ∧ v.toInteger = .ok n ∧ p n) ↔
      HasTime claims name ∧ ∀ v n, claims.get? name = some v → v.toInteger = .ok n → p n := by
  cases hget : claims.get? name with
  | none => simp [HasTime, hget]
  | some v =>
    simp only [HasTime, hget, Option.some.injEq, reduceCtorEq, false_or, forall_eq']
    constructor
    · rintro ⟨_, n, rfl, hn, hp⟩
      refine ⟨⟨n, hn⟩, ?_⟩
      rintro _ m rfl hm
      rw [hn] at hm
      cases hm
      exact hp
    · rintro ⟨⟨n, hn⟩, hall⟩
      exact ⟨v, n, rfl, hn, hall v n rfl hn⟩

/-- **The checks are those of the time and those of everything else.** -/
theorem check_eq_ok_iff_within (e : Expectations) (now : Int) (claims : Members) :
    e.check now claims = .ok () ↔ e.Suits claims ∧ Within claims e.leeway now := by
  rw [check_eq_ok_iff, checkIssuedAt_eq_ok_iff, checkNotBefore_eq_ok_iff, checkExpiry_eq_ok_iff,
    absent_or_time_iff, Unexpired, absent_or_time_iff]
  constructor
  · rintro ⟨hiat, ⟨hnbf, hbegun⟩, ⟨hexp, hunexpired⟩, haud, hiss, hsub, hjti⟩
    refine ⟨⟨hiat, hnbf, hexp, haud, hiss, hsub, hjti⟩, fun v n hv hn ↦ ?_, fun v n hv hn ↦ ?_⟩
    · have := hbegun v n hv hn
      omega
    · have := hunexpired v n hv hn
      omega
  · rintro ⟨⟨hiat, hnbf, hexp, haud, hiss, hsub, hjti⟩, hbegun, hunexpired⟩
    refine ⟨hiat, ⟨hnbf, fun v n hv hn ↦ ?_⟩, ⟨hexp, fun v n hv hn ↦ ?_⟩, haud, hiss, hsub, hjti⟩
    · have := hbegun v n hv hn
      omega
    · have := hunexpired v n hv hn
      omega

/-! ## One stretch of time -/

/-- **There is no gap between two seconds in which the claims hold.** -/
theorem Within.between {claims : Members} {leeway first now last : Int}
    (h : Within claims leeway first) (h' : Within claims leeway last) (hfirst : first ≤ now)
    (hlast : now ≤ last) : Within claims leeway now where
  begun v n hv hn := Int.le_trans (h.begun v n hv hn) hfirst
  unexpired v n hv hn := Int.le_trans hlast (h'.unexpired v n hv hn)

/-- A larger leeway takes nothing away. -/
theorem Within.mono {claims : Members} {leeway larger now : Int} (h : Within claims leeway now)
    (hle : leeway ≤ larger) : Within claims larger now where
  begun v n hv hn := by
    have := h.begun v n hv hn
    omega
  unexpired v n hv hn := by
    have := h.unexpired v n hv hn
    omega

end Expectations

namespace Verifier

def withLeeway (v : Verifier) (leeway : Int) : Verifier :=
  { v with expectations := { v.expectations with leeway } }

/-- What is accepted is signed and suits, and the second is within its times. -/
theorem check_eq_ok_iff_within {v : Verifier} {now : Int} {raw : Json} {claims : Members} :
    v.check now raw = .ok claims ↔
      (v.signedClaims raw = .ok claims ∧ v.expectations.Suits claims) ∧
        Expectations.Within claims v.expectations.leeway now := by
  rw [check_eq_ok_iff, Expectations.check_eq_ok_iff_within, and_assoc]

/-- **Acceptance is one stretch of time.** A token that is accepted at two moments is accepted with
the same claims at each and at every moment between them. One that is accepted with some leeway is
accepted at the same moment and with the same claims under every larger leeway. -/
theorem check_between (v : Verifier) (raw : Json) :
    (∀ (first between last : Moment) (claims claims' : Members),
        first.instant ≤ between.instant → between.instant ≤ last.instant →
        v.check first.seconds raw = .ok claims → v.check last.seconds raw = .ok claims' →
        claims' = claims ∧ v.check between.seconds raw = .ok claims) ∧
      ∀ (m : Moment) (leeway larger : Int) (claims : Members), leeway ≤ larger →
        (v.withLeeway leeway).check m.seconds raw = .ok claims →
        (v.withLeeway larger).check m.seconds raw = .ok claims := by
  constructor
  · intro first between last claims claims' hfirst hlast hcheck hcheck'
    obtain ⟨⟨hsigned, hsuits⟩, hwithin⟩ := check_eq_ok_iff_within.mp hcheck
    obtain ⟨⟨hsigned', -⟩, hwithin'⟩ := check_eq_ok_iff_within.mp hcheck'
    -- what is signed is the same at both moments
    have hsame : claims' = claims := Except.ok.inj (hsigned'.symm.trans hsigned)
    subst hsame
    have hbetween := hwithin.between hwithin' (Moment.seconds_mono hfirst)
      (Moment.seconds_mono hlast)
    exact ⟨rfl, check_eq_ok_iff_within.mpr ⟨⟨hsigned, hsuits⟩, hbetween⟩⟩
  · intro m leeway larger claims hle hcheck
    obtain ⟨⟨hsigned, hsuits⟩, hwithin⟩ := check_eq_ok_iff_within.mp hcheck
    have hsigned' : (v.withLeeway larger).signedClaims raw = .ok claims :=
      (signedClaims_congr rfl rfl raw).trans hsigned
    -- the fields of `Suits` do not mention the leeway
    have hsuits' : (v.withLeeway larger).expectations.Suits claims :=
      ⟨hsuits.issuedAt, hsuits.notBefore, hsuits.expiry, hsuits.audience, hsuits.issuer,
        hsuits.subject, hsuits.tokenId⟩
    exact check_eq_ok_iff_within.mpr ⟨⟨hsigned', hsuits'⟩, hwithin.mono hle⟩

def epochMoment : Moment where
  wall := Moment.epochWall
  offset := some 0
  wall_lt := by decide

/-- Midnight of the first of January 2000 on a clock two hours ahead of universal time. -/
def millennialMoment : Moment where
  wall := Moment.epochWall + 946684800 * microsPerSecond
  offset := some (7200 * microsPerSecond)
  wall_lt := by decide

/-- The last microsecond of the second in which the token with all three claims expires. -/
def expiringMoment : Moment where
  wall := Moment.epochWall + 1893456000999999
  offset := some 0
  wall_lt := by decide

/-- The token is accepted in 1970 and in the second in which it expires, and so it is in 2000; and
in 2000 it is also accepted with an hour of leeway. -/
theorem check_between_fullToken :
    sampleVerifier.check epochMoment.seconds (.str fullToken) = .ok fullClaims ∧
      sampleVerifier.check expiringMoment.seconds (.str fullToken) = .ok fullClaims ∧
      sampleVerifier.check millennialMoment.seconds (.str fullToken) = .ok fullClaims ∧
      (sampleVerifier.withLeeway 3600).check millennialMoment.seconds (.str fullToken) =
        .ok fullClaims := by
  obtain ⟨hbetween, hleeway⟩ := check_between sampleVerifier (.str fullToken)
  have hfirst : sampleVerifier.check epochMoment.seconds (.str fullToken) = .ok fullClaims :=
    check_eq_ok_iff.mpr ⟨signedClaims_fullToken, rfl⟩
  have hlast : sampleVerifier.check expiringMoment.seconds (.str fullToken) = .ok fullClaims :=
    check_eq_ok_iff.mpr ⟨signedClaims_fullToken, rfl⟩
  obtain ⟨-, hmiddle⟩ := hbetween epochMoment millennialMoment expiringMoment fullClaims fullClaims
    (by decide) (by decide) hfirst hlast
  exact ⟨hfirst, hlast, hmiddle,
    hleeway millennialMoment 0 3600 fullClaims (by decide) hmiddle⟩

end Verifier

end SessionGate
