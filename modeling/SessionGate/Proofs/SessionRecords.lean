import SessionGate.Proofs.CheckedFields
import SessionGate.Proofs.Members
import SessionGate.Proofs.MomentTexts
import SessionGate.Service.Payload

/-!
# Sessions as records of their callers

The record of a session is written by `Session.toMembers` and checked by `SessionPayload.ofMembers`
when its caller brings it back. The two agree on sessions that are plain, `Session.IsPlain`, up to
two fields: the writer takes a refresh token of any type, and the checks want a text; and it takes
an email with surrogates, which the checks do not.

Plain sessions are those that consist of texts and of a moment that a field can hold. Everything
that has passed the checks is plain, so a record that was accepted once is accepted again.
-/

namespace SessionGate

/-- Tokens and email are texts, and the expiry is a moment as fields hold it. Nothing is said of the
refresh token. -/
structure Session.IsPlain (s : Session) : Prop where
  accessToken : ∃ t, s.accessToken = .str t
  idToken : ∃ t, s.idToken = .str t
  email : ∃ t, s.email = .str t
  expiresOn : s.expiresOn = .unset ∨
    ∃ moment : Moment, s.expiresOn = .at moment ∧ moment.isAware = true ∧ moment.IsWhole

def Session.HasTextToken (s : Session) : Prop :=
  ∃ t, s.refreshToken = .str t

def Session.HasPlainEmail (s : Session) : Prop :=
  ∃ t : String, s.email = .str t

namespace Moment

theorem orUniversal_of_isAware {m : Moment} (h : m.isAware = true) : m.orUniversal = m := by
  rw [orUniversal]
  cases hm : m.offset with
  | some offset => rfl
  | none =>
    rw [isAware, hm] at h
    cases h

theorem isAware_orUniversal (m : Moment) : m.orUniversal.isAware = true := by
  rw [orUniversal]
  cases hm : m.offset with
  | some offset => rw [isAware, hm]; rfl
  | none => rfl

end Moment

/-! ## From sessions to records -/

namespace Session

/-- An expiry of a plain session is read from its text. -/
theorem IsPlain.nullable_moment {s : Session} (h : s.IsPlain) :
    ∃ expiry, Checked.nullable Checked.moment s.expiresOn.toJson = .valid expiry ∧
      (expiry.map fun moment ↦ Expiry.at moment.orUniversal).getD .unset = s.expiresOn := by
  rcases h.expiresOn with hunset | ⟨moment, hmoment, haware, hwhole⟩
  · rw [hunset]
    exact ⟨none, rfl, rfl⟩
  · have hread := Checked.moment_iso hwhole
    refine ⟨some moment, ?_, ?_⟩
    · rw [hmoment, Expiry.toJson, Checked.nullable, hread]
      · rfl
      · exact nofun
    · rw [hmoment, Option.map_some, Moment.orUniversal_of_isAware haware]
      rfl

theorem IsPlain.toMembers_eq {s : Session} (h : s.IsPlain) :
    s.toMembers = .ok (s.membersWith s.expiresOn.toJson) := by
  rcases h.expiresOn with hexpiry | ⟨moment, hexpiry, -⟩
  · rw [toMembers, hexpiry]
    rfl
  · rw [toMembers, hexpiry]
    rfl

end Session

namespace SessionPayload

open Checked

/-- What the checks make of the record of a plain session. -/
theorem ofMembers_membersWith {s : Session} {accessToken idToken : Text} {email : String}
    (haccess : s.accessToken = .str accessToken) (hid : s.idToken = .str idToken)
    (hemail : s.email = .str email) {expiresOn : Json} {expiry : Option Moment}
    (hexpiry : nullable moment expiresOn = .valid expiry) :
    ofMembers (s.membersWith expiresOn) =
      ((string s.refreshToken).under (.member "refresh_token")).map fun refreshToken ↦
        ⟨accessToken, idToken, email, refreshToken, expiry, s.version⟩ := by
  have hfilled : filledString (.str email) = .valid email := by
    have hset := s.credentials.email_isSet
    rw [show s.credentials.email = .str email from hemail] at hset
    exact if_neg (by simpa [Json.isSet] using hset)
  have haccess' : required (s.membersWith expiresOn) "access_token" string =
      .valid accessToken := by
    rw [required_of_get? (v := s.accessToken) rfl, haccess]
    rfl
  have hid' : required (s.membersWith expiresOn) "id_token" string = .valid idToken := by
    rw [required_of_get? (v := s.idToken) rfl, hid]
    rfl
  have hemail' : required (s.membersWith expiresOn) "email" filledString = .valid email := by
    rw [required_of_get? (v := s.email) rfl, hemail, hfilled]
    rfl
  have hexpiry' : Checked.optional (s.membersWith expiresOn) "expires_on" none (nullable moment) =
      .valid expiry := by
    rw [optional_of_get? (v := expiresOn) rfl, hexpiry]
    rfl
  have hversion' : Checked.optional (s.membersWith expiresOn) "version" 0 int =
      .valid s.version := rfl
  have hrefresh : Checked.optional (s.membersWith expiresOn) "refresh_token" (.plain "") string =
      (string s.refreshToken).under (.member "refresh_token") := optional_of_get? rfl
  rw [ofMembers, haccess', hid', hemail', hexpiry', hversion', hrefresh]
  cases (string s.refreshToken).under (.member "refresh_token") <;> rfl

/-- **The record of a plain session with texts for its refresh token and its email is read as that
session**, if the email has no surrogates. -/
theorem toSession_of_record {s : Session} (h : s.IsPlain) (hemail : s.HasPlainEmail)
    (htoken : s.HasTextToken) {ms : Members} (hms : s.toMembers = .ok ms) :
    ∃ payload, ofMembers ms = .valid payload ∧ payload.toSession = .ok s := by
  obtain ⟨accessToken, haccess⟩ := h.accessToken
  obtain ⟨idToken, hid⟩ := h.idToken
  obtain ⟨email, hemail⟩ := hemail
  obtain ⟨refreshToken, hrefresh⟩ := htoken
  obtain ⟨expiry, hexpiry, hexpires⟩ := h.nullable_moment
  cases h.toMembers_eq.symm.trans hms
  refine ⟨⟨accessToken, idToken, email, refreshToken, expiry, s.version⟩, ?_, ?_⟩
  · rw [ofMembers_membersWith haccess hid hemail hexpiry, hrefresh]
    rfl
  · have hset : (Json.str email).isSet = true := by
      rw [← hemail]
      exact s.credentials.email_isSet
    rw [toSession, Session.make, dif_pos hset]
    simp only [hexpires, ← haccess, ← hid, ← hrefresh, ← hemail]
    rfl

/-- The record of a plain session with another refresh token is refused for it, and for nothing
else. -/
theorem ofMembers_of_token {s : Session} (h : s.IsPlain) (hemail : s.HasPlainEmail)
    (htoken : ¬s.HasTextToken) {ms : Members} (hms : s.toMembers = .ok ms) :
    ofMembers ms = .invalid [⟨[.member "refresh_token"], .notString⟩] := by
  obtain ⟨accessToken, haccess⟩ := h.accessToken
  obtain ⟨idToken, hid⟩ := h.idToken
  obtain ⟨email, hemail⟩ := hemail
  obtain ⟨expiry, hexpiry, -⟩ := h.nullable_moment
  cases h.toMembers_eq.symm.trans hms
  rw [ofMembers_membersWith haccess hid hemail hexpiry]
  cases hrefresh : s.refreshToken with
  | str t => exact absurd ⟨t, hrefresh⟩ htoken
  | _ => rfl

/-! ## From records to sessions -/

theorem ne_empty_of_filledString {v : Json} {t : String} (h : filledString v = .valid t) :
    t ≠ "" := by
  cases v with
  | str u =>
    obtain ⟨s, -, hs⟩ := unicode_eq_valid_iff.mp h
    split at hs
    · cases hs
    · next hne =>
      cases hs
      exact hne
  | _ => cases h

theorem isWhole_of_nullable {v : Json} {m : Moment}
    (h : nullable moment v = .valid (some m)) : m.IsWhole := by
  cases v with
  | null => cases h
  | _ =>
    obtain ⟨n, hn, heq⟩ := map_eq_valid_iff.mp h
    cases heq
    exact isWhole_of_moment hn

/-- The payload is what the checks make of each field. -/
structure IsReadFrom (payload : SessionPayload) (ms : Members) : Prop where
  accessToken : required ms "access_token" string = .valid payload.accessToken
  idToken : required ms "id_token" string = .valid payload.idToken
  email : required ms "email" filledString = .valid payload.email
  refreshToken :
    Checked.optional ms "refresh_token" (.plain "") string = .valid payload.refreshToken
  expiresOn :
    Checked.optional ms "expires_on" none (nullable moment) = .valid payload.expiresOn
  version : Checked.optional ms "version" 0 int = .valid payload.version

theorem isReadFrom_of_ofMembers {ms : Members} {payload : SessionPayload}
    (h : ofMembers ms = .valid payload) : payload.IsReadFrom ms := by
  obtain ⟨_, version, h, hversion, hsixth⟩ := seq_eq_valid_iff.mp h
  obtain ⟨_, expiry, h, hexpiry, hfifth⟩ := seq_eq_valid_iff.mp h
  obtain ⟨_, refreshToken, h, hrefresh, hfourth⟩ := seq_eq_valid_iff.mp h
  obtain ⟨_, email, h, hemail, hthird⟩ := seq_eq_valid_iff.mp h
  obtain ⟨_, idToken, h, hid, hsecond⟩ := seq_eq_valid_iff.mp h
  obtain ⟨accessToken, haccess, hfirst⟩ := map_eq_valid_iff.mp h
  subst hfirst hsecond hthird hfourth hfifth hsixth
  exact ⟨haccess, hid, hemail, hrefresh, hexpiry, hversion⟩

/-- **What has passed the checks is a plain session with a text for its refresh token and an email
of characters.** -/
theorem isPlain_of_ofMembers {ms : Members} {payload : SessionPayload}
    (h : ofMembers ms = .valid payload) :
    ∃ s, payload.toSession = .ok s ∧ s.IsPlain ∧ s.HasPlainEmail ∧ s.HasTextToken ∧
      s.version = payload.version := by
  have hread := isReadFrom_of_ofMembers h
  have hset : (Json.str payload.email).isSet = true := by
    obtain ⟨v, -, hemail⟩ := required_eq_valid_iff.mp hread.email
    simpa [Json.isSet] using ne_empty_of_filledString hemail
  refine ⟨⟨⟨.str payload.accessToken, .str payload.idToken, .str payload.refreshToken,
    (payload.expiresOn.map fun moment ↦ Expiry.at moment.orUniversal).getD .unset,
    .str payload.email, hset⟩, payload.version⟩,
    ?_, ⟨⟨_, rfl⟩, ⟨_, rfl⟩, ⟨_, rfl⟩, ?_⟩, ⟨_, rfl⟩, ⟨_, rfl⟩, rfl⟩
  · rw [toSession, Session.make, dif_pos hset]
  · have hexpiry := hread.expiresOn
    cases hexpires : payload.expiresOn with
    | none => exact .inl rfl
    | some m =>
      rw [hexpires] at hexpiry
      refine .inr ⟨m.orUniversal, rfl, m.isAware_orUniversal, Moment.isWhole_orUniversal ?_⟩
      rcases optional_eq_valid_iff.mp hexpiry with ⟨-, hnone⟩ | ⟨v, -, hmoment⟩
      · cases hnone
      · exact isWhole_of_nullable hmoment

end SessionPayload

end SessionGate
