import SessionGate.Proofs.IsoTexts
import SessionGate.Proofs.ReadValues
import SessionGate.Proofs.Renewals
import SessionGate.Proofs.SessionReturns

/-!
# Sessions that need no refresh

A caller may bring any session to `/auth/refresh`. One that is fresh, `SessionPayload.IsFresh`, is
handed back at once and nobody is asked: `Service.serve_refresh_of_isFresh`. That is so for tokens
that can be written. The checks let a token with surrogates pass, and a session with one is handed
back to nobody.

The checks read a field in many spellings, and the record in the answer has one of each. It tells
the session that was meant, `SessionPayload.IsToldBy`, and it is where the spellings end: whoever
brings the record back gets the same answer, to the letter.

## Long versions

There is an answer at all only because a version that was read can be written. Both have a limit on
the digits of an integer, and it is the same one: `Checked.natAbs_lt_of_int`.
-/

namespace SessionGate

open Text

/-! ## Versions -/

namespace Checked

theorem natAbs_lt_of_plainInteger {cs : List Char} {n : Int} (h : plainInteger cs = .ok n) :
    n.natAbs < Nat.pow 10 Text.digitLimit := by
  unfold plainInteger at h
  split at h
  next negative body hbody =>
  -- a sign counts among the characters that are read at most
  have hsign : body.length ≤ cs.length := by
    split at hbody <;> cases hbody
    · exact Nat.le_succ _
    · exact Nat.le_refl _
  split at h
  · cases h
  · split at h <;> cases h
    exact Json.lt_pow_of_lt_ten (by decide) (by decide)
  · next ds rest _ _ hspan =>
    have hdigits := Json.isDigit_of_spanDigits hspan
    have hlength : body.length = ds.length + rest.length := by
      cases hspan
      rw [← List.length_append, List.takeWhile_append_dropWhile]
    split at h
    · cases h
    · next hlimit =>
      have hwritten : integerSizeLimit = Text.digitLimit := rfl
      have hbound := Json.digitsValue_lt_of_length hdigits (by omega)
      split at h
      · cases h
        rw [Json.natAbs_of_sign]
        exact hbound
      · cases h

theorem natAbs_lt_of_readInt {s : String} {n : Int} (h : readInt s = .ok n) :
    n.natAbs < Nat.pow 10 Text.digitLimit := by
  unfold readInt at h
  split at h
  · split at h
    · exact natAbs_lt_of_plainInteger h
    · cases h
  · exact natAbs_lt_of_plainInteger h

/-- An integer that was accepted can be written, if the value it was accepted for was read. -/
theorem natAbs_lt_of_int {v : Json} {n : Int} (h : int v = .valid n) {room : Nat}
    (hv : v.textFault? room = none) : n.natAbs < Nat.pow 10 Text.digitLimit := by
  cases v with
  | int m =>
    cases h
    exact Json.textFault?_int_iff.mp hv
  | bool b =>
    cases h
    refine Json.lt_pow_of_lt_ten (by decide) ?_
    cases b <;> decide
  | str t =>
    obtain ⟨s, -, hs⟩ := unicode_eq_valid_iff.mp h
    rw [intOfText] at hs
    cases hread : readInt s with
    | error kind =>
      rw [hread] at hs
      cases hs
    | ok m =>
      rw [hread] at hs
      cases hs
      exact natAbs_lt_of_readInt hread
  | float x =>
    rw [int] at h
    split at h
    · cases h
    · split at h
      · cases h
      · split at h
        · next hsmall =>
          cases h
          exact Json.lt_pow_of_lt_pow (by decide : 19 ≤ Text.digitLimit)
            (Nat.lt_trans hsmall (by decide))
        · cases h
  | _ => cases h

end Checked

theorem Http.Request.ofBytes_of_content {r : Http.Request} {v : Json}
    (h : r.content = .ok (.document v)) : Json.ofBytes r.body = .ok v := by
  unfold Http.Request.content at h
  split at h
  · cases h
  · split at h
    · split at h
      · next hread =>
        cases h
        exact hread
      · cases h
      · cases h
    · cases h

/-- The version of an accepted session can be written. -/
theorem SessionPayload.natAbs_version_lt {r : Http.Request} {payload : SessionPayload}
    (h : r.record? ofBody = some payload) :
    payload.version.natAbs < Nat.pow 10 Text.digitLimit := by
  obtain ⟨body, hcontent, hbody⟩ := Http.Request.record?_eq_some_iff.mp h
  obtain ⟨v, hget, hv⟩ := Checked.required_eq_valid_iff.mp hbody
  have htext : (Json.obj body).textFault? Json.depthLimit = none :=
    Json.textFault?_of_ofBytes (Http.Request.ofBytes_of_content hcontent)
  cases v with
  | obj ms =>
    obtain ⟨room, hroom⟩ := Json.textFault?_of_get? htext hget
    rcases Checked.optional_eq_valid_iff.mp (isReadFrom_of_ofMembers hv).version with
      ⟨-, hzero⟩ | ⟨w, hw, hread⟩
    · rw [← hzero]
      exact Json.lt_pow_of_lt_ten (by decide) (by decide)
    · obtain ⟨room, hroom⟩ := Json.textFault?_of_get? hroom hw
      exact Checked.natAbs_lt_of_int hread hroom
  | _ => cases hv

/-! ## Fresh sessions -/

theorem Moment.instant_orUniversal (m : Moment) : m.orUniversal.instant = m.instant := by
  rw [orUniversal]
  cases hm : m.offset with
  | none => rw [instant, instant, hm]; rfl
  | some offset => rfl

/-- A whole number of minutes is told by a text. -/
theorem Moment.IsWhole.isTold {m : Moment} (h : m.IsWhole) : m.IsTold := by
  intro offset ho
  obtain ⟨minutes, hday, rfl⟩ := h offset ho
  simp only [microsPerMinute, microsPerSecond, microsPerDay]
  omega

namespace SessionPayload

/-- Nothing has to be done for the session: it has no refresh token, or it expires later. -/
def IsFresh (payload : SessionPayload) (now : Moment) : Prop :=
  payload.refreshToken = .plain "" ∨ ∃ m, payload.expiresOn = some m ∧ now.instant < m.instant

structure HasPlainTokens (payload : SessionPayload) : Prop where
  accessToken : payload.accessToken.isPlain = true
  idToken : payload.idToken.isPlain = true
  refreshToken : payload.refreshToken.isPlain = true

/-- The record has a session's tokens, its email and its version, and the text of an aware moment
that is the instant at which the session expires. -/
structure IsToldBy (payload : SessionPayload) (record : Members) : Prop where
  names : record.names =
    ["access_token", "id_token", "refresh_token", "expires_on", "email", "version"]
  accessToken : record.get? "access_token" = some (.str payload.accessToken)
  idToken : record.get? "id_token" = some (.str payload.idToken)
  refreshToken : record.get? "refresh_token" = some (.str payload.refreshToken)
  email : record.get? "email" = some (.str payload.email)
  version : record.get? "version" = some (.int payload.version)
  unset : payload.expiresOn = none → record.get? "expires_on" = some .null
  expiresOn : ∀ m ∈ payload.expiresOn, ∃ text n, record.get? "expires_on" = some (.str text) ∧
    Moment.readIso text = .ok n ∧ Checked.moment (.str text) = .valid n ∧ n.isAware = true ∧
    n.instant = m.instant

variable {payload : SessionPayload} {own : Session}

theorem eq_of_toSession (h : payload.toSession = .ok own) :
    own.accessToken = .str payload.accessToken ∧ own.idToken = .str payload.idToken ∧
      own.refreshToken = .str payload.refreshToken ∧ own.email = .str payload.email ∧
      own.version = payload.version ∧
      own.expiresOn = (payload.expiresOn.map fun m ↦ Expiry.at m.orUniversal).getD .unset := by
  rw [toSession, Session.make] at h
  split at h
  · cases h
    exact ⟨rfl, rfl, rfl, rfl, rfl, rfl⟩
  · cases h

/-- A session that was accepted can be written if its tokens can. -/
theorem isWritable_iff {r : Http.Request} (hpayload : r.record? ofBody = some payload)
    (h : payload.toSession = .ok own) : own.IsWritable ↔ payload.HasPlainTokens := by
  obtain ⟨haccess, hid, hrefresh, hemail, hversion, -⟩ := eq_of_toSession h
  constructor
  · intro hwritable
    obtain ⟨htoken, hidToken, htoken', -, -⟩ := hwritable
    rw [haccess] at htoken
    rw [hid] at hidToken
    rw [hrefresh] at htoken'
    exact ⟨htoken, hidToken, htoken'⟩
  · intro hplain
    refine ⟨haccess ▸ hplain.accessToken, hid ▸ hplain.idToken, hrefresh ▸ hplain.refreshToken,
      by rw [hemail]; rfl, ?_⟩
    rw [hversion]
    exact natAbs_version_lt hpayload

theorem isToldBy_record (h : payload.toSession = .ok own) (hplain : own.IsPlain) :
    payload.IsToldBy (own.membersWith own.expiresOn.toJson) := by
  obtain ⟨haccess, hid, hrefresh, hemail, hversion, hexpires⟩ := eq_of_toSession h
  refine ⟨rfl, congrArg some haccess, congrArg some hid, congrArg some hrefresh,
    congrArg some hemail, ?_, ?_, ?_⟩
  · rw [← hversion]
    rfl
  · intro hnone
    rw [hnone] at hexpires
    rw [hexpires]
    rfl
  · intro m hm
    rw [hm] at hexpires
    have hwhole : m.orUniversal.IsWhole := by
      rcases hplain.expiresOn with hunset | ⟨n, hn, -, hwhole⟩
      · cases hexpires.symm.trans hunset
      · cases hexpires.symm.trans hn
        exact hwhole
    refine ⟨m.orUniversal.iso, m.orUniversal, ?_, Moment.readIso_iso hwhole.isTold,
      Checked.moment_iso hwhole, m.isAware_orUniversal, m.instant_orUniversal⟩
    rw [hexpires]
    rfl

/-- A fresh session is not due. -/
theorem needsRefresh_of_isFresh {now : Moment} (h : payload.toSession = .ok own)
    (haware : now.isAware = true) (hfresh : payload.IsFresh now) :
    own.needsRefresh now = .ok false := by
  obtain ⟨-, -, hrefresh, -, -, hexpires⟩ := eq_of_toSession h
  rw [Session.needsRefresh]
  split
  · next hset =>
    rcases hfresh with hempty | ⟨m, hm, hlater⟩
    · rw [hrefresh, hempty] at hset
      cases hset
    · rw [hm] at hexpires
      have hzone : m.orUniversal.isAware = now.isAware := by rw [m.isAware_orUniversal, haware]
      have hnot : (!decide (now.instant < m.orUniversal.instant)) = false := by
        rw [m.instant_orUniversal, decide_eq_true hlater]
        rfl
      rw [Session.isExpired, hexpires]
      simp only [Option.map_some, Option.getD_some, Moment.later?, if_pos hzone, hnot]
  · rfl

end SessionPayload

namespace Service

variable {s : Service} {p : Provider} {r : Http.Request} {w : World}

/-- Nothing is sent around what is dispatched, unless that is refused. -/
theorem sent_serve (hmethod : r.method = "POST") {result : Except Failure Http.Response}
    {raw : World} (h : (s.dispatch r).perform (entered w (requestId r)) = (result, raw))
    (hanswered : ∀ error, result ≠ .error (.refused error)) :
    (s.serve r w).2.sent = raw.sent := by
  have hcaught : (s.answerOrError r).perform (entered w (requestId r)) = (result, raw) := by
    rw [answerOrError, Action.perform_tryCatch, h]
    rcases result with (error | defect) | response
    · exact absurd rfl (hanswered error)
    · rfl
    · rfl
  cases result with
  | error failure =>
    have hanswer : (s.answer r).perform (entered w (requestId r)) = (.error failure, raw) := by
      rw [answer, preflight?_of_post hmethod]
      simp only [Action.perform_bind, hcaught]
    rw [s.serve_of_error hanswer]
    rfl
  | ok response =>
    have hanswer : (s.answer r).perform (entered w (requestId r)) =
        (.ok (response.withHeaders (s.cors.answerHeaders r)), raw) := by
      rw [answer, preflight?_of_post hmethod]
      simp only [Action.perform_bind, hcaught, Action.perform_pure]
    rw [s.serve_of_ok hanswer]
    rfl

/-- The answer with a session that was not refreshed. -/
def freshAnswer (record : Members) : Http.Body :=
  .json (.obj [("refreshed", .bool false), ("session", .obj record)])

/-- The request is answered with a record that was not refreshed, and nothing is sent. -/
structure HandsBack (s : Service) (r : Http.Request) (w : World) (record : Members) : Prop where
  status : (s.serve r w).1.status = 200
  body : (s.serve r w).1.body = freshAnswer record
  sent : (s.serve r w).2.sent = w.sent

/-- A session that is not due is handed back if it can be written, and nothing is sent. -/
theorem serve_of_not_needed (hp : s.provider = some p) (hmethod : r.method = "POST")
    (hpath : r.path = "/auth/refresh") {payload : SessionPayload} {own : Session}
    (hpayload : r.record? SessionPayload.ofBody = some payload)
    (hown : payload.toSession = .ok own) (hplain : own.IsPlain)
    (hneeds : own.needsRefresh w.now = .ok false) :
    (own.IsWritable → s.HandsBack r w (own.membersWith own.expiresOn.toJson)) ∧
      (¬own.IsWritable → (s.serve r w).1 = .crashed ∧ (s.serve r w).2.sent = w.sent) := by
  have hdone : (p.refreshIfNeeded (some sessionName)).perform
      (holding (entered w (requestId r)) own) =
        (.ok false, holding (entered w (requestId r)) own) :=
    Provider.refreshIfNeeded_of_not_needed rfl hneeds
  obtain ⟨raw, hperform, hsent⟩ := s.perform_refresh hplain hpayload hown hdone rfl
  rw [← dispatch_refresh hp hmethod hpath] at hperform
  have hwritten : (Json.obj [("refreshed", .bool false),
      ("session", .obj (own.membersWith own.expiresOn.toJson))]).isWritable = true ↔
        own.IsWritable := by
    rw [← hplain.isWritable_record]
    simp only [Json.isWritable, Json.membersAreWritable, Bool.and_true]
    rfl
  constructor
  · intro hcan
    rw [replied, if_pos (hwritten.mpr hcan)] at hperform
    obtain ⟨hstatus, hbody⟩ := serve_of_response hmethod (congrArg Prod.fst hperform)
    have hkept := sent_serve hmethod hperform (by rintro error ⟨⟩)
    exact ⟨hstatus, hbody, hkept.trans hsent⟩
  · intro hcannot
    rw [replied, if_neg fun h ↦ hcannot (hwritten.mp h)] at hperform
    have hkept := sent_serve hmethod hperform (by rintro error ⟨⟩)
    exact ⟨serve_of_defect hmethod (congrArg Prod.fst hperform), hkept.trans hsent⟩

/-- **Fresh sessions come back untouched.** Whoever brings a session that needs no refresh is handed
the record of that session, and nothing is sent. The text of the record in a body brings it back,
and whoever brings it back at the same time is handed the same record. All this is so if the tokens
hold no surrogates; if one does, nothing is sent either, and nobody answers. -/
theorem serve_refresh_of_isFresh (hp : s.provider = some p) (hmethod : r.method = "POST")
    (hpath : r.path = "/auth/refresh") {payload : SessionPayload}
    (hpayload : r.record? SessionPayload.ofBody = some payload) (haware : w.now.isAware = true)
    (hfresh : payload.IsFresh w.now) :
    ∃ record, payload.IsToldBy record ∧
      (payload.HasPlainTokens →
        s.HandsBack r w record ∧
        (∀ style back, style.IsStandard → Posts back style record → Carries back record) ∧
        ∀ back w', Carries back record → back.path = "/auth/refresh" → w'.now = w.now →
          s.HandsBack back w' record) ∧
      (¬payload.HasPlainTokens →
        (s.serve r w).1 = .crashed ∧ (s.serve r w).2.sent = w.sent) := by
  obtain ⟨ms, hms⟩ := ofMembers_of_record? hpayload
  obtain ⟨own, hown, hplain, -, ⟨token, htoken⟩, -⟩ := SessionPayload.isPlain_of_ofMembers hms
  have hwritable := SessionPayload.isWritable_iff hpayload hown
  have hneeds := SessionPayload.needsRefresh_of_isFresh hown haware hfresh
  obtain ⟨hhanded, hcrashed⟩ := serve_of_not_needed hp hmethod hpath hpayload hown hplain hneeds
  refine ⟨own.membersWith own.expiresOn.toJson, SessionPayload.isToldBy_record hown hplain,
    fun htokens ↦ ?_, fun htokens ↦ hcrashed fun hcan ↦ htokens (hwritable.mp hcan)⟩
  have hcan := hwritable.mpr htokens
  refine ⟨hhanded hcan, ?_, ?_⟩
  · intro style back hstyle hback
    obtain ⟨chars, hchars⟩ := Json.exists_plain_of_isWritable htoken hcan.refreshToken
    have hexact : own.refreshToken.IsExact (Json.depthLimit - 2) := by
      rw [hchars]
      exact isJoined_plain chars
    exact carries_of_posts hstyle (hplain.isExact_record hcan hexact) hback
  · -- what comes back is read as the same session, so that it is as fresh as before
    intro back w' hback hbackPath hnow
    obtain ⟨-, again, hagain, hsame⟩ :=
      (serve_of_carries hp hplain hcan hplain.toMembers_eq hback).1 ⟨token, htoken⟩
    rw [← hnow] at hneeds
    exact (serve_of_not_needed hp hback.method hbackPath hagain hsame hplain hneeds).1 hcan

/-- A request with a session whose expiry is a number and whose version is a text. -/
def numberedRequest : Http.Request where
  method := "POST"
  path := "/auth/refresh"
  headers := [("content-type", "application/json")]
  body := Text.utf8 ("\x7b\"session\":\x7b\"access_token\":\"access\",\"id_token\":\"id\"," ++
    "\"email\":\"a@b\",\"refresh_token\":\"refresh\",\"expires_on\":4102444800.5," ++
    "\"version\":\" 0012.0\"\x7d\x7d")

theorem serve_refresh_numberedRequest : ∃ payload : SessionPayload,
    sampleService.provider = some sampleProvider ∧
      numberedRequest.record? SessionPayload.ofBody = some payload ∧ payload.version = 12 ∧
      payload.IsFresh sampleMoment ∧ payload.HasPlainTokens ∧
      ∃ record, payload.IsToldBy record ∧
        sampleService.HandsBack numberedRequest { now := sampleMoment } record ∧
        ∀ w : World, w.now = sampleMoment →
          sampleService.HandsBack (posted "/auth/refresh" record) w record := by
  have hread : (numberedRequest.record? SessionPayload.ofBody).any (fun payload ↦
      payload.version = 12 && payload.expiresOn.any (sampleMoment.instant < ·.instant) &&
        (payload.accessToken.isPlain && payload.idToken.isPlain &&
          payload.refreshToken.isPlain)) = true := by
    decide +kernel
  obtain ⟨payload, hpayload, hread⟩ := (Option.any_eq_true _ _).mp hread
  simp only [Bool.and_eq_true] at hread
  obtain ⟨⟨hversion, hexpires⟩, ⟨haccess, hid⟩, hrefresh⟩ := hread
  obtain ⟨m, hm, hlater⟩ := (Option.any_eq_true _ _).mp hexpires
  have hfresh : payload.IsFresh sampleMoment := .inr ⟨m, hm, of_decide_eq_true hlater⟩
  have htokens : payload.HasPlainTokens := ⟨haccess, hid, hrefresh⟩
  obtain ⟨record, htold, hreturned, -⟩ :=
    @serve_refresh_of_isFresh sampleService sampleProvider numberedRequest { now := sampleMoment }
      rfl rfl rfl payload hpayload rfl hfresh
  obtain ⟨hback, hposts, hagain⟩ := hreturned htokens
  refine ⟨payload, rfl, hpayload, of_decide_eq_true hversion, hfresh, htokens, record, htold,
    hback, fun w hnow ↦ ?_⟩
  have hcarries := hposts .compact _ JsonStyle.isStandard_compact
    (posts_posted (by decide : "/auth/refresh" ∈ sessionPaths) record)
  exact hagain _ w hcarries rfl hnow

/-- A request with a session without a refresh token, whose access token is a surrogate. -/
def surrogateRequest : Http.Request where
  method := "POST"
  path := "/auth/refresh"
  headers := [("content-type", "application/json")]
  body := Text.utf8 ("\x7b\"session\":\x7b\"access_token\":\"\\ud800\",\"id_token\":\"i\"," ++
    "\"email\":\"a@b\"\x7d\x7d")

/-- The session is accepted and fresh, and nobody answers. -/
theorem serve_refresh_surrogateRequest : ∃ payload : SessionPayload,
    surrogateRequest.record? SessionPayload.ofBody = some payload ∧
      payload.IsFresh sampleMoment ∧ payload.accessToken.isPlain = false ∧
      (sampleService.serve surrogateRequest { now := sampleMoment }).1.status = 500 := by
  have hread : (surrogateRequest.record? SessionPayload.ofBody).any (fun payload ↦
      payload.refreshToken = .plain "" && !payload.accessToken.isPlain) = true := by
    decide +kernel
  obtain ⟨payload, hpayload, hread⟩ := (Option.any_eq_true _ _).mp hread
  obtain ⟨hempty, hloose⟩ := Bool.and_eq_true_iff.mp hread
  exact ⟨payload, hpayload, .inl (of_decide_eq_true hempty), (Bool.not_eq_true' _).mp hloose,
    by decide +kernel⟩

end Service

end SessionGate
