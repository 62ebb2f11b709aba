import SessionGate.Proofs.IsoTexts
import SessionGate.Proofs.IssuedSessions
import SessionGate.Proofs.Projections
import SessionGate.Proofs.Renewals

/-!
# Sessions in stores

A session goes into a store as the record that `Session.toMembers` writes, and `Session.ofMembers`
makes a session of it again. `Session.IsRestored` says that this is the same session, down to its
version and the text of its expiry, so that it has the same record as before.

Two halves meet at `Session.IsStorable`. What is storable is restored; and what comes out of a
record is storable, provided that the record had a text for its expiry or nothing, and so is what a
provider makes of a bundle. Nothing is asked of the tokens and the email: they may be any values.

## Clocks

An offset that is a fraction of a second gets lost in a text. No time that was read has one, since
`Moment.isTold_of_readIso`, and neither has one on a clock that shows universal time or the time of
a named zone. For a bundle that came at any other time there is nothing to be had:
`Session.isRestored_iff` is exact.

The clocks of a named zone may be set forward or back before the bundle expires. So its expiry keeps
the zone and not the offset of the receipt, `TokenBundle.inZone?`. A wall time that such clocks show
twice or never is equal to no time of another zone, and is left out of `Zone`.
-/

namespace SessionGate

/-! ## Storable sessions -/

namespace Session

/-- The session has an expiry that a text can tell, or none, and a refresh token that is not empty
in any way but that of a text. -/
structure IsStorable (s : Session) : Prop where
  expiresOn : s.expiresOn = .unset ∨
    ∃ m : Moment, s.expiresOn = .at m ∧ m.isAware = true ∧ m.IsTold
  refreshToken : s.refreshToken.orElse (.str "") = s.refreshToken

/-- The session has an aware expiry or none, and comes back from its record as it is. -/
structure IsRestored (s : Session) : Prop where
  expiresOn : s.expiresOn = .unset ∨ ∃ m : Moment, s.expiresOn = .at m ∧ m.isAware = true
  record : ∃ ms, s.toMembers = .ok ms ∧ ofMembers ms = .ok s

variable {s : Session} {ms : Members}

/-- What is read from the record of a session. -/
theorem ofMembers_membersWith {expiresOn : Json} {expiry : Expiry}
    (hexpiry : Expiry.ofJson expiresOn = .ok expiry) :
    ofMembers (s.membersWith expiresOn) = make s.accessToken s.idToken
      (s.refreshToken.orElse (.str "")) expiry s.email s.version := by
  have hget : (s.membersWith expiresOn).get "expires_on" = expiresOn := rfl
  rw [ofMembers, hget, hexpiry]
  rfl

theorem make_self :
    make s.accessToken s.idToken s.refreshToken s.expiresOn s.email s.version = .ok s :=
  dif_pos s.credentials.email_isSet

/-- **What is storable is restored.** -/
theorem IsStorable.isRestored (h : s.IsStorable) : s.IsRestored := by
  rcases h.expiresOn with hexpiry | ⟨m, hexpiry, haware, htold⟩
  · refine ⟨.inl hexpiry, s.membersWith .null, ?_, ?_⟩
    · rw [toMembers, hexpiry]
      rfl
    · have hread : Expiry.ofJson .null = .ok .unset := rfl
      rw [ofMembers_membersWith hread, h.refreshToken, ← hexpiry]
      exact make_self
  · refine ⟨.inr ⟨m, hexpiry, haware⟩, s.membersWith (.str m.iso), ?_, ?_⟩
    · rw [toMembers, hexpiry]
      rfl
    · have hread : Expiry.ofJson (.str m.iso) = .ok (.at m) := by
        rw [Expiry.ofJson, Moment.readIso_iso htold]
        exact congrArg (fun n ↦ Except.ok (Expiry.at n)) (Moment.orUniversal_of_isAware haware)
      rw [ofMembers_membersWith hread, h.refreshToken, ← hexpiry]
      exact make_self

/-! ## Sessions from records -/

/-- What a record is read as. -/
theorem ofMembers_eq_ok (h : ofMembers ms = .ok s) :
    Expiry.ofJson (ms.get "expires_on") = .ok s.expiresOn ∧
      s.refreshToken = (ms.get "refresh_token").orElse (.str "") := by
  rw [ofMembers] at h
  cases hexpiry : Expiry.ofJson (ms.get "expires_on") with
  | error defect =>
    rw [hexpiry] at h
    cases h
  | ok expiry =>
    rw [hexpiry] at h
    simp only at h
    split at h
    · cases h
    · rw [make] at h
      split at h
      · cases h
        exact ⟨rfl, rfl⟩
      · cases h

/-- An expiry that is read from a text is aware, and a text can tell it. -/
theorem expiresOn_of_ofJson {v : Json} {expiry : Expiry} (hv : v = .null ∨ ∃ text, v = .str text)
    (h : Expiry.ofJson v = .ok expiry) :
    expiry = .unset ∨ ∃ m : Moment, expiry = .at m ∧ m.isAware = true ∧ m.IsTold := by
  rcases hv with rfl | ⟨text, rfl⟩
  · cases h
    exact .inl rfl
  · rw [Expiry.ofJson] at h
    cases hread : Moment.readIso text with
    | error fault =>
      rw [hread] at h
      cases h
    | ok m =>
      rw [hread] at h
      cases h
      exact .inr ⟨_, rfl, m.isAware_orUniversal, (Moment.isTold_of_readIso hread).orUniversal⟩

theorem isStorable_of_ofMembers
    (hexpiry : ms.get "expires_on" = .null ∨ ∃ text, ms.get "expires_on" = .str text)
    (h : ofMembers ms = .ok s) : s.IsStorable := by
  obtain ⟨hread, htoken⟩ := ofMembers_eq_ok h
  refine ⟨expiresOn_of_ofJson hexpiry hread, ?_⟩
  rw [htoken, Json.orElse_empty_orElse]

/-- What is restored is storable, and nothing else is. -/
theorem isRestored_iff : s.IsRestored ↔ s.IsStorable := by
  refine ⟨fun h ↦ ?_, IsStorable.isRestored⟩
  obtain ⟨ms, hms, hread⟩ := h.record
  have hexpiry : ms.get "expires_on" = .null ∨ ∃ text, ms.get "expires_on" = .str text := by
    rw [toMembers] at hms
    split at hms
    · cases hms
      exact .inr ⟨_, rfl⟩
    · cases hms
      exact .inl rfl
    · cases hms
  exact isStorable_of_ofMembers hexpiry hread

/-! ## Sessions from bundles -/

/-- The refresh token of a bundle that was read is not empty in any way but that of a text. -/
theorem refreshToken_of_ofMembers {payload : Members} {receivedAt : Moment} {bundle : TokenBundle}
    (h : TokenBundle.ofMembers payload receivedAt = .ok bundle) :
    bundle.refreshToken.orElse (.str "") = bundle.refreshToken := by
  rw [(TokenBundle.ofMembers_eq_ok_iff.mp h).refreshToken, Json.orElse_empty_orElse]

theorem isStorable_of_createSession {p : Provider} {w : World} {bundle : TokenBundle}
    (hexpiry : ∀ m ∈ bundle.expiry, m.isAware = true ∧ m.IsTold)
    (htoken : bundle.refreshToken.orElse (.str "") = bundle.refreshToken)
    (h : ((p.createSession bundle).perform w).1 = .ok s) : s.IsStorable := by
  obtain ⟨idToken, email, -, hconsists⟩ := Provider.createSession_eq_ok_iff.mp h
  constructor
  · rw [hconsists.expiresOn, Provider.expiryOf]
    cases hm : bundle.expiry with
    | none => exact .inl rfl
    | some m => exact .inr ⟨m, rfl, hexpiry m hm⟩
  · rw [hconsists.refreshToken, htoken]

end Session

/-! ## Named zones -/

/-- A zone with a name: by how many seconds its clocks are ahead of universal time, given what they
show. Nothing is said of a wall time that they show twice or never. -/
structure Zone where
  seconds? : Nat → Option Int
  natAbs_lt : ∀ wall, ∀ seconds ∈ seconds? wall, seconds.natAbs < 86400

/-- The moment when the clocks of a zone show the same. -/
def Moment.inZone? (m : Moment) (zone : Zone) : Option Moment :=
  (zone.seconds? m.wall).map fun seconds ↦
    { m with offset := some (seconds * (microsPerSecond : Int)) }

theorem Moment.isTold_of_inZone? {m there : Moment} {zone : Zone}
    (h : m.inZone? zone = some there) : there.isAware = true ∧ there.IsTold := by
  obtain ⟨seconds, hseconds, rfl⟩ := Option.map_eq_some_iff.mp h
  have hlt := zone.natAbs_lt m.wall seconds hseconds
  refine ⟨rfl, ?_⟩
  rintro offset ⟨⟩
  rw [microsPerDay, Int.natAbs_mul, Int.natAbs_natCast]
  refine ⟨Nat.mul_lt_mul_of_pos_right hlt (by decide), ?_⟩
  rcases seconds.natAbs.eq_zero_or_pos with hzero | hpos
  · exact .inl (by rw [Int.natAbs_eq_zero.mp hzero, Int.zero_mul])
  · exact .inr (Nat.le_mul_of_pos_left _ hpos)

/-- The bundle that comes of the same payload by the clocks of a zone: its expiry shows the same on
the wall, and is as far ahead of universal time as those clocks are by then. -/
def TokenBundle.inZone? (bundle : TokenBundle) (zone : Zone) : Option TokenBundle :=
  match bundle.expiry with
  | none => some bundle
  | some m => (m.inZone? zone).map fun expiry ↦ { bundle with expiry := some expiry }

theorem TokenBundle.isTold_of_inZone? {bundle there : TokenBundle} {zone : Zone}
    (h : bundle.inZone? zone = some there) :
    (∀ m ∈ there.expiry, m.isAware = true ∧ m.IsTold) ∧
      there.refreshToken = bundle.refreshToken := by
  rw [inZone?] at h
  cases hexpiry : bundle.expiry with
  | none =>
    rw [hexpiry] at h
    cases h
    refine ⟨fun m hm ↦ ?_, rfl⟩
    rw [hexpiry] at hm
    cases hm
  | some m =>
    rw [hexpiry] at h
    obtain ⟨expiry, hthere, rfl⟩ := Option.map_eq_some_iff.mp h
    refine ⟨?_, rfl⟩
    rintro _ ⟨⟩
    exact Moment.isTold_of_inZone? hthere

namespace Session

/-! ## Restored sessions -/

/-- **Sessions are restored.** A session that was read from a record with a text for its expiry or
nothing, and one that was made of a bundle, have an aware expiry or none, and come back from their
records as they are. The bundle may have come by a clock with an offset that can be told, or by the
clocks of a named zone. -/
theorem isRestored_of_read_or_made :
    (∀ ms s, (ms.get "expires_on" = .null ∨ ∃ text, ms.get "expires_on" = .str text) →
      ofMembers ms = .ok s → s.IsRestored) ∧
    ∀ (p : Provider) (w : World) payload receivedAt bundle,
      TokenBundle.ofMembers payload receivedAt = .ok bundle →
        (receivedAt.isAware = true → receivedAt.IsTold → ∀ s,
          ((p.createSession bundle).perform w).1 = .ok s → s.IsRestored) ∧
        ∀ zone there, bundle.inZone? zone = some there → ∀ s,
          ((p.createSession there).perform w).1 = .ok s → s.IsRestored := by
  refine ⟨fun ms s hexpiry h ↦ (isStorable_of_ofMembers hexpiry h).isRestored,
    fun p w payload receivedAt bundle hbundle ↦ ⟨fun haware htold s h ↦ ?_,
      fun zone there hzone s h ↦ ?_⟩⟩
  · have hexpiry : ∀ m ∈ bundle.expiry, m.isAware = true ∧ m.IsTold := by
      intro m hm
      have hoffset : m.offset = receivedAt.offset := TokenBundle.offset_of_expiry hbundle m hm
      rw [Moment.isAware, Moment.IsTold, hoffset]
      exact ⟨haware, htold⟩
    exact (isStorable_of_createSession hexpiry (refreshToken_of_ofMembers hbundle) h).isRestored
  · obtain ⟨hexpiry, hsame⟩ := TokenBundle.isTold_of_inZone? hzone
    have htoken : there.refreshToken.orElse (.str "") = there.refreshToken := by
      rw [hsame]
      exact refreshToken_of_ofMembers hbundle
    exact (isStorable_of_createSession hexpiry htoken h).isRestored

/-- A record with the date of a week, on a clock west of universal time by less than a minute. -/
def weekRecord : Members :=
  [("email", .str "a@b"), ("expires_on", .str "2030W013T05:30:15,123-00:00:30.5"),
    ("version", .str " 1_0 ")]

/-- Such a clock shows the time when a bundle comes that lasts an hour. -/
def westernMoment : Moment :=
  { sampleMoment with offset := some (-30500000) }

def hourlyPayload : Members :=
  [("access_token", .str "access"), ("expires_in", .int 3600), ("id_token", .str fullToken)]

/-- A zone whose clocks are an hour ahead, but for those that they show twice on one night. -/
def fallbackZone : Zone where
  seconds? wall := if wall / microsPerDay = 730000 then none else some 3600
  natAbs_lt := by
    intro wall seconds hseconds
    split at hseconds
    · cases hseconds
    · cases hseconds
      decide

/-- A provider makes a session of the bundle, whenever that came. -/
theorem exists_made_of_hourlyPayload {bundle : TokenBundle}
    (hextra : bundle.extra = hourlyPayload) :
    ∃ s, (((sampleProvider.requiring false).createSession bundle).perform
      { now := sampleMoment }).1 = .ok s ∧ s.ConsistsOf bundle fullToken "a@b" := by
  have hcarried : bundle.extra.get? "id_token" = some (.str fullToken) := by
    rw [hextra]
    rfl
  have haccepts := Provider.accepts_fullToken hcarried
  obtain ⟨s, hconsists⟩ :=
    exists_consistsOf (by decide : Text.plain "a@b" ≠ .plain "") bundle fullToken
  exact ⟨s, Provider.createSession_eq_ok_iff.mpr ⟨_, _, haccepts, hconsists⟩, hconsists⟩

theorem isRestored_weekRecord :
    (∃ s, ofMembers weekRecord = .ok s ∧ s.version = 10 ∧ s.IsRestored) ∧
      ∃ bundle, TokenBundle.ofMembers hourlyPayload westernMoment = .ok bundle ∧
        (∃ s, (((sampleProvider.requiring false).createSession bundle).perform
          { now := sampleMoment }).1 = .ok s ∧ s.expiresOn ≠ .unset ∧ s.IsRestored) ∧
        ∃ there s, bundle.inZone? fallbackZone = some there ∧
          (((sampleProvider.requiring false).createSession there).perform
            { now := sampleMoment }).1 = .ok s ∧ s.expiresOn ≠ .unset ∧ s.IsRestored := by
  obtain ⟨hread, hmade⟩ := isRestored_of_read_or_made
  constructor
  · have hversion : (ofMembers weekRecord).toOption.map (·.version) = some 10 := by
      decide +kernel
    obtain ⟨s, hs, hversion⟩ := Option.map_eq_some_iff.mp hversion
    have hs := toOption_eq_some_iff.mp hs
    exact ⟨s, hs, hversion, hread weekRecord s (.inr ⟨_, rfl⟩) hs⟩
  · have hexpiry : (TokenBundle.ofMembers hourlyPayload westernMoment).toOption.any
        (fun bundle ↦ (bundle.expiry.bind (·.inZone? fallbackZone)).isSome) = true := by
      decide +kernel
    obtain ⟨bundle, hbundle, hexpiry⟩ := (Option.any_eq_true _ _).mp hexpiry
    have hbundle := toOption_eq_some_iff.mp hbundle
    have hextra := (TokenBundle.ofMembers_eq_ok_iff.mp hbundle).extra
    obtain ⟨expiry, hexpiry⟩ := Option.isSome_iff_exists.mp hexpiry
    obtain ⟨m, hm, hthere⟩ := Option.bind_eq_some_iff.mp hexpiry
    have htold : westernMoment.IsTold := by
      rintro offset ⟨⟩
      exact ⟨by decide, .inr (by decide)⟩
    have hset {b : TokenBundle} {s : Session} {n : Moment} (hs : s.ConsistsOf b fullToken "a@b")
        (hn : b.expiry = some n) : s.expiresOn ≠ .unset := by
      rw [hs.expiresOn, Provider.expiryOf, hn]
      intro hunset
      cases hunset
    obtain ⟨hhere, hzone⟩ := hmade (sampleProvider.requiring false) { now := sampleMoment }
      hourlyPayload westernMoment bundle hbundle
    obtain ⟨s, hs, hconsists⟩ := exists_made_of_hourlyPayload hextra
    refine ⟨bundle, hbundle, ⟨s, hs, hset hconsists hm, hhere rfl htold s hs⟩, ?_⟩
    have hbundleThere :
        bundle.inZone? fallbackZone = some { bundle with expiry := some expiry } := by
      simp only [TokenBundle.inZone?, hm, hthere, Option.map_some]
    obtain ⟨t, ht, hconsistsThere⟩ :=
      @exists_made_of_hourlyPayload { bundle with expiry := some expiry } hextra
    exact ⟨_, t, hbundleThere, ht, hset hconsistsThere rfl, hzone _ _ hbundleThere t ht⟩

/-- A clock that is half a second ahead of universal time. -/
def halfSecondMoment : Moment :=
  { sampleMoment with offset := some 500000 }

/-- The time an hour later, on that clock. -/
def halfSecondExpiry : Moment where
  wall := halfSecondMoment.wall + 3600 * microsPerSecond
  offset := some 500000
  wall_lt := by decide

/-- The time that its text is read as: zero whole seconds of offset are universal time. -/
def rereadExpiry : Moment :=
  { halfSecondExpiry with offset := some 0 }

theorem ofMembers_hourlyPayload_halfSecond :
    ∃ bundle, TokenBundle.ofMembers hourlyPayload halfSecondMoment = .ok bundle ∧
      bundle.expiry = some halfSecondExpiry := by
  have hread : (TokenBundle.ofMembers hourlyPayload halfSecondMoment).toOption.any
      (·.expiry = some halfSecondExpiry) = true := by
    decide +kernel
  obtain ⟨bundle, hbundle, hexpiry⟩ := (Option.any_eq_true _ _).mp hread
  exact ⟨bundle, toOption_eq_some_iff.mp hbundle, of_decide_eq_true hexpiry⟩

theorem iso_halfSecondExpiry :
    halfSecondExpiry.iso = "2030-01-01T01:00:00+00:00:00.500000" := by
  decide +kernel

theorem ofJson_iso_halfSecondExpiry :
    Expiry.ofJson (.str halfSecondExpiry.iso) = .ok (.at rereadExpiry) := by
  have hmoment : Moment.readIso halfSecondExpiry.iso = .ok rereadExpiry := by
    rw [iso_halfSecondExpiry]
    exact toOption_eq_some_iff.mp (by decide +kernel)
  rw [Expiry.ofJson, hmoment]
  rfl

/-- The session of a bundle that came by such a clock is stored, and another one comes back: it
expires half a second later, on a clock that shows universal time. -/
theorem not_isRestored_halfSecond :
    halfSecondMoment.isAware = true ∧
      ∃ bundle s ms t, TokenBundle.ofMembers hourlyPayload halfSecondMoment = .ok bundle ∧
        (((sampleProvider.requiring false).createSession bundle).perform
          { now := sampleMoment }).1 = .ok s ∧
        s.toMembers = .ok ms ∧
        ms.get "expires_on" = .str "2030-01-01T01:00:00+00:00:00.500000" ∧
        ofMembers ms = .ok t ∧ t.same s = false ∧
        t.expiresOn.text? = .ok (some "2030-01-01T01:00:00+00:00") ∧ ¬s.IsRestored := by
  obtain ⟨bundle, hbundle, hexpiry⟩ := ofMembers_hourlyPayload_halfSecond
  obtain ⟨s, hs, hconsists⟩ :=
    exists_made_of_hourlyPayload (TokenBundle.ofMembers_eq_ok_iff.mp hbundle).extra
  have hexpires : s.expiresOn = .at halfSecondExpiry := by
    rw [hconsists.expiresOn, Provider.expiryOf, hexpiry]
    rfl
  have hrecord : s.toMembers = .ok (s.membersWith (.str halfSecondExpiry.iso)) := by
    rw [toMembers, hexpires]
    rfl
  have hmade : ofMembers (s.membersWith (.str halfSecondExpiry.iso)) =
      .ok ⟨⟨s.accessToken, s.idToken, s.refreshToken.orElse (.str ""), .at rereadExpiry, s.email,
        s.credentials.email_isSet⟩, s.version⟩ := by
    rw [ofMembers_membersWith ofJson_iso_halfSecondExpiry]
    exact dif_pos s.credentials.email_isSet
  have hdiffers : (Expiry.at rereadExpiry).same s.expiresOn = false := by
    rw [hexpires]
    decide +kernel
  refine ⟨rfl, bundle, s, _, _, hbundle, hs, hrecord, ?_, hmade, ?_, ?_, fun hrestored ↦ ?_⟩
  · rw [← iso_halfSecondExpiry]
    rfl
  · rw [Session.same, Credentials.same]
    exact Bool.and_eq_false_iff.mpr (.inr hdiffers)
  · have hlater : rereadExpiry.iso = "2030-01-01T01:00:00+00:00" := by
      decide +kernel
    exact congrArg (fun text ↦ Except.ok (some text)) hlater
  · obtain ⟨ms, hms, hback⟩ := hrestored.record
    rw [hrecord] at hms
    cases hms
    rw [hmade] at hback
    have hsame : Expiry.at rereadExpiry = s.expiresOn :=
      congrArg Session.expiresOn (Except.ok.inj hback)
    rw [hexpires] at hsame
    exact absurd (congrArg Moment.offset (Expiry.at.inj hsame)) (by decide)

end Session

end SessionGate
