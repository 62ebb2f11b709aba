import SessionGate.Proofs.Exchanges
import SessionGate.Proofs.Provenance

/-!
# What a refresh makes of its answer

Both refreshes make a session of the answer to their grant and give it the refresh token that is
there if the answer brings none. `World.NextGrants` says that the answer is there and in order, and
`Origin.Gives` that all the rest of the session comes from it.

## The token that is carried over

The token that is carried over is read again when the answer has come. Where a refresh commits, its
version tells that nothing landed meanwhile, and the token is the one that was posted. Where it only
returns a session, nothing tells it: `Provider.refreshSession_refreshToken` names the case in which
the tokens of two grants get into one session.

## How long a refresh lasts

A session that was refreshed expires when the answer says, and it has a refresh token, because it
had one before. So the next refresh waits for exactly the seconds that were declared, and is due at
once where none were: `Provider.refreshIfNeeded_lifetime`.
-/

namespace SessionGate

/-! ## Carried tokens -/

namespace Json

variable {v default other : Json}

/-- A default that is empty itself gives way to another. -/
theorem orElse_empty_orElse : (v.orElse (.str "")).orElse default = v.orElse default := by
  by_cases h : v.isSet = true
  · rw [orElse, orElse, orElse, if_pos h, if_pos h]
  · rw [orElse, orElse, orElse, if_neg h, if_neg h]
    rfl

theorem isSet_orElse (h : default.isSet = true) : (v.orElse default).isSet = true := by
  by_cases hv : v.isSet = true
  · rwa [orElse, if_pos hv]
  · rwa [orElse, if_neg hv]

/-- Two defaults are alike only where none is needed, or if they are one. -/
theorem orElse_eq_orElse_iff :
    v.orElse default = v.orElse other ↔ v.isSet = true ∨ default = other := by
  by_cases h : v.isSet = true
  · rw [orElse, orElse, if_pos h, if_pos h]
    exact iff_of_true rfl (.inl h)
  · rw [orElse, orElse, if_neg h, if_neg h, or_iff_right h]

end Json

/-! ## Sessions of answers -/

/-- The next request is answered at a moment, and the answer is in order. -/
def World.NextGrants (w : World) (payload : Members) (receivedAt : Moment) : Prop :=
  ∃ d rest response, w.deliveries = d :: rest ∧ d.outcome = .answered response ∧
    d.advanceTo.getD w.now = receivedAt ∧ response.Grants payload

/-! ## When a session is due -/

namespace Session

variable {s : Session} {receivedAt now : Moment}

theorem isSet_of_needsRefresh (h : s.needsRefresh now = .ok true) :
    s.refreshToken.isSet = true := by
  rw [needsRefresh] at h
  split at h
  · assumption
  · cases h

theorem needsRefresh_of_unset (hset : s.refreshToken.isSet = true) (h : s.expiresOn = .unset) :
    s.needsRefresh now = .ok true := by
  rw [needsRefresh, if_pos hset, isExpired, h]

/-- A session with a refresh token is due from its expiry on. -/
theorem needsRefresh_of_isAfter {expiry : Moment} {seconds : Int}
    (hset : s.refreshToken.isSet = true) (h : s.expiresOn = .at expiry)
    (hafter : receivedAt.IsAfter seconds expiry) (hclock : now.isAware = receivedAt.isAware) :
    s.needsRefresh now =
      .ok (decide (receivedAt.instant + seconds * microsPerSecond ≤ now.instant)) := by
  have hzone : expiry.isAware = now.isAware := by
    rw [hclock, Moment.isAware, hafter.offset, Moment.isAware]
  rw [needsRefresh, if_pos hset, isExpired, h]
  simp only [Moment.later?, if_pos hzone, hafter.instant, ← decide_not, Int.not_lt]

end Session

namespace Origin

variable {p : Provider} {s : Session} {payload : Members} {receivedAt projectedAt now : Moment}

/-- The expiry of a session that was made of a payload is what a reader of the payload finds. -/
theorem readFrom_of_gives (h : (answer payload receivedAt projectedAt).Gives p s) :
    ∃ bundle, bundle.IsReadFrom payload receivedAt ∧ s.expiresOn = Provider.expiryOf bundle := by
  obtain ⟨bundle, hbundle, hexpires⟩ := h.expiresOn
  exact ⟨bundle, TokenBundle.ofMembers_eq_ok_iff.mp hbundle, hexpires⟩

theorem lasts_of_gives (h : (answer payload receivedAt projectedAt).Gives p s) :
    TokenBundle.Lasts receivedAt (payload.get "expires_in") := by
  obtain ⟨bundle, hread, -⟩ := readFrom_of_gives h
  exact hread.lasts

/-- A session that lives for some seconds is due when they have passed. -/
theorem needsRefresh_of_pos (h : (answer payload receivedAt projectedAt).Gives p s)
    (hset : s.refreshToken.isSet = true) {n : Int}
    (hn : (payload.get "expires_in").toInteger = .ok n) (hpos : 0 < n)
    (hclock : now.isAware = receivedAt.isAware) :
    s.needsRefresh now =
      .ok (decide (receivedAt.instant + n * microsPerSecond ≤ now.instant)) := by
  obtain ⟨bundle, hread, hexpires⟩ := readFrom_of_gives h
  obtain ⟨expiry, hexpiry, hafter⟩ := hread.expiry_of_pos hn hpos
  rw [Provider.expiryOf, hexpiry] at hexpires
  exact Session.needsRefresh_of_isAfter hset hexpires hafter hclock

/-- A session for which no lifetime is declared, or none that is positive, is always due. -/
theorem needsRefresh_of_spent (h : (answer payload receivedAt projectedAt).Gives p s)
    (hset : s.refreshToken.isSet = true)
    (hspent : ∀ n, (payload.get "expires_in").toInteger = .ok n → n ≤ 0) :
    s.needsRefresh now = .ok true := by
  obtain ⟨bundle, hread, hexpires⟩ := readFrom_of_gives h
  rw [Provider.expiryOf, hread.expiry_of_spent hspent] at hexpires
  exact Session.needsRefresh_of_unset hset hexpires

end Origin

namespace Provider

variable {p : Provider} {w after : World} {name : String} {s : Session}

/-! ## Answers to a grant -/

/-- A session that came of a grant was made of the answer to it. -/
theorem gives_of_renew {r : Request} {url : Url} {fresh : Session}
    (h : p.receive (w.send r).2.now url (w.send r).1 >>= p.renew (w.send r).2.now = .ok fresh) :
    ∃ ms, w.NextGrants ms (w.send r).2.now ∧
      (Origin.answer ms (w.send r).2.now (w.send r).2.now).Gives p fresh ∧
      fresh.refreshToken = (ms.get "refresh_token").orElse (.str "") := by
  obtain ⟨bundle, hreceive, hrenew⟩ := bind_eq_ok_iff.mp h
  obtain ⟨response, hanswered, hread⟩ := receive_eq_ok hreceive
  obtain ⟨d, rest, hd, houtcome, hnow⟩ := World.send_answered hanswered
  obtain ⟨ms, hgrants, hread⟩ := TokenEndpoint.read_eq_ok_iff.mp hread
  have hproject := renew_eq_ok_iff.mp hrenew
  obtain ⟨_, _, -, -, -, -, -, hrefresh, -⟩ := project_eq_ok hproject
  exact ⟨ms, ⟨d, rest, response, hd, houtcome, hnow.symm, hgrants⟩,
    Origin.gives_of_project (TokenBundle.ofMembers_eq_ok_iff.mpr hread) hproject,
    hrefresh.trans hread.refreshToken⟩

/-- **The course of a refresh that commits nothing.** The token it carries over is that of the
session with what landed on it in flight. -/
theorem perform_refreshSession (p : Provider) (h : w.sessions.get? name = some s) :
    ∃ entries, (p.refreshSession (some name)).perform w =
      match s.beginRefresh w.now with
      | .error defect => (.error (.defect defect), w)
      | .ok none => (.ok none, w)
      | .ok (some pending) =>
        match p.post pending w.isClosed with
        | .error defect => (.error (.defect defect), w)
        | .ok url =>
          let sent := w.send ((p.grantRequest pending).sentTo url)
          match p.receive sent.2.now url sent.1 >>= p.renew sent.2.now with
          | .error failure => (.error failure, sent.2.written entries)
          | .ok fresh =>
            (.ok (some ((s.after (w.inFlight name)).carryOver fresh)), sent.2.written entries) := by
  simp only [refreshSession, Action.perform_bind, Action.perform_session_of_some h,
    Action.perform_now, Action.perform_liftDefect]
  rcases s.beginRefresh w.now with defect | _ | pending
  · exact ⟨[], rfl⟩
  · exact ⟨[], rfl⟩
  · obtain ⟨entries, hredeem⟩ := perform_redeemRefresh p pending w
    refine ⟨entries, ?_⟩
    simp only [mapError_ok, Action.perform_bind, hredeem]
    cases p.post pending w.isClosed with
    | error defect => rfl
    | ok url =>
      have hlanded := World.send_session ((p.grantRequest pending).sentTo url) h
      simp only
      generalize w.send ((p.grantRequest pending).sentTo url) = sent at hlanded ⊢
      cases p.receive sent.2.now url sent.1 >>= p.renew sent.2.now with
      | error failure => rfl
      | ok fresh =>
        have hsession := @Action.perform_session_of_some name (sent.2.written entries) _ hlanded
        simp only [hsession, Action.perform_pure]

/-! ## A grant of an hour -/

/-- The bundle of an answer that came to a full URL. -/
theorem receive_of_read {now : Moment} {url : Url} {response : Response} {bundle : TokenBundle}
    (habsolute : url.isAbsolute = true) (h : TokenEndpoint.read response now = .ok bundle) :
    p.receive now url (.ok (.answered response)) = .ok bundle := by
  rw [receive]
  simp only [Except.bind, Outcome.reply, if_pos habsolute, TokenEndpoint.conclude, h, mapError_ok]

def otherSession : Session where
  credentials := { (sampleSession bareToken).credentials with
    refreshToken := .str "other"
    email := .str "c@d"
    email_isSet := rfl }
  version := 0

/-- A world in which a stale session is granted an hour, and perhaps replaced meanwhile. -/
def hourWorld (other : Option Session) : World where
  now := sampleMoment
  deliveries := [{
    outcome := .answered (TokenEndpoint.answerOf (TokenEndpoint.hourPayload fullToken))
    commits := other.toList.map fun other ↦ ⟨"s", .ok other⟩ }]
  sessions := [("s", sampleSession bareToken)]

theorem send_hourWorld (other : Option Session) (r : Request) :
    ((hourWorld other).send r).1 =
        .ok (.answered (TokenEndpoint.answerOf (TokenEndpoint.hourPayload fullToken))) ∧
      ((hourWorld other).send r).2.now = sampleMoment := by
  cases other <;> exact ⟨rfl, rfl⟩

/-- The answer makes a session without a refresh token. -/
theorem hour_renewed : ∃ url fresh, sampleProvider.post samplePending false = .ok url ∧
    (sampleProvider.receive sampleMoment url
        (.ok (.answered (TokenEndpoint.answerOf (TokenEndpoint.hourPayload fullToken)))) >>=
      sampleProvider.renew sampleMoment) = .ok fresh ∧
    fresh.refreshToken = .str "" := by
  have hpost : (sampleProvider.post samplePending false).toOption.any (·.isAbsolute) = true := by
    decide +kernel
  obtain ⟨url, hurl, habsolute⟩ := (Option.any_eq_true _ _).mp hpost
  have hgrants := TokenEndpoint.grants_hourPayload fullToken
  obtain ⟨bundle, hread⟩ := TokenEndpoint.exists_read_iff.mpr
    ⟨_, hgrants, TokenEndpoint.lasts_hourPayload fullToken⟩
  obtain ⟨ms, hgranted, hfrom⟩ := TokenEndpoint.read_eq_ok_iff.mp hread
  cases hgrants.toHolds.payload_eq hgranted.toHolds
  have hid : bundle.idToken? = some (.plain fullToken) := by
    have hne : Text.plain fullToken ≠ .plain "" := by decide +kernel
    rw [TokenBundle.idToken?, hfrom.extra, Members.nonEmptyStr?_get_iff]
    exact ⟨rfl, hne⟩
  have hcheck : sampleProvider.verifier.check sampleMoment.seconds (.str fullToken) =
      .ok fullClaims := check_fullToken
  exact ⟨url, _, toOption_eq_some_iff.mp hurl, bind_eq_ok_iff.mpr ⟨bundle,
    receive_of_read habsolute hread, renew_eq_ok_iff.mpr (project_of_check hid hcheck)⟩,
    hfrom.refreshToken⟩

/-- The fresh session has the refresh token that was posted, or that of the session that landed. -/
theorem refreshSession_hourWorld (other : Option Session) :
    ∃ fresh after, (sampleProvider.refreshSession (some "s")).perform (hourWorld other) =
        (.ok (some fresh), after) ∧
      fresh.refreshToken = (other.getD (sampleSession bareToken)).refreshToken := by
  obtain ⟨url, fresh, hpost, hrenewed, htoken⟩ := hour_renewed
  have hs : (hourWorld other).sessions.get? "s" = some (sampleSession bareToken) := rfl
  have hopen : (hourWorld other).isClosed = false := rfl
  have hbegin : (sampleSession bareToken).beginRefresh (hourWorld other).now =
    .ok (some samplePending) := rfl
  obtain ⟨hanswer, hnow⟩ :=
    send_hourWorld other ((sampleProvider.grantRequest samplePending).sentTo url)
  obtain ⟨entries, hperform⟩ := perform_refreshSession sampleProvider hs
  rw [hperform, hbegin, hopen]
  simp only [hpost, hanswer, hnow, hrenewed]
  refine ⟨_, _, rfl, ?_⟩
  rw [Session.carryOver_refreshToken, htoken]
  cases other <;> rfl

/-! ## Refreshes that commit nothing -/

/-- **Whose refresh token a fresh session has.** It has the one of the answer, or else the one that
the session has when the answer is there. That is the one that was posted unless somebody else put
another in its place; then the fresh session has that one, next to the tokens of the answer. -/
theorem refreshSession_refreshToken {fresh : Session} (h : w.sessions.get? name = some s)
    (hdone : (p.refreshSession (some name)).perform w = (.ok (some fresh), after)) :
    ∃ ms current, w.NextGrants ms after.now ∧
      (Origin.answer ms after.now after.now).Gives p fresh ∧
      after.sessions.get? name = some current ∧
      (∃ r body, after.sent = w.sent ++ [r] ∧ r.method = "POST" ∧ r.content? = some body ∧
        Form.encode? (p.data.tokenEndpoint.pairs (.refresh s.refreshToken)) = some body) ∧
      fresh.refreshToken = (ms.get "refresh_token").orElse current.refreshToken ∧
      (fresh.refreshToken = (ms.get "refresh_token").orElse s.refreshToken ↔
        (ms.get "refresh_token").isSet = true ∨ current.refreshToken = s.refreshToken) := by
  obtain ⟨entries, hperform⟩ := perform_refreshSession p h
  rw [hperform] at hdone
  rcases hbegin : s.beginRefresh w.now with defect | _ | pending
  · rw [hbegin] at hdone; cases hdone
  · rw [hbegin] at hdone; cases hdone
  · rw [hbegin] at hdone
    obtain ⟨-, hpending⟩ := Session.beginRefresh_eq_some_iff.mp hbegin
    simp only at hdone
    cases hpost : p.post pending w.isClosed with
    | error defect => rw [hpost] at hdone; cases hdone
    | ok url =>
      rw [hpost] at hdone
      simp only at hdone
      obtain ⟨body, hbody⟩ := content?_of_post hpost
      have hsent := World.send_sent w ((p.grantRequest pending).sentTo url)
      have hlanded := World.send_session ((p.grantRequest pending).sentTo url) h
      have hmade := @gives_of_renew p w ((p.grantRequest pending).sentTo url) url
      generalize w.send ((p.grantRequest pending).sentTo url) = sent
        at hdone hsent hlanded hmade
      cases hrenewed : p.receive sent.2.now url sent.1 >>= p.renew sent.2.now with
      | error failure => rw [hrenewed] at hdone; cases hdone
      | ok renewed =>
        obtain ⟨ms, hgrants, hfrom, htoken⟩ := hmade hrenewed
        rw [hrenewed] at hdone
        cases hdone
        have hcarried : ((s.after (w.inFlight name)).carryOver renewed).refreshToken =
            (ms.get "refresh_token").orElse (s.after (w.inFlight name)).refreshToken := by
          rw [Session.carryOver_refreshToken, htoken, Json.orElse_empty_orElse]
        refine ⟨ms, _, hgrants, Origin.gives_of_agrees (Session.agrees_carryOver _ renewed) hfrom,
          hlanded, ⟨_, body, hsent, rfl, hbody, by rw [← hbody, hpending]; rfl⟩, hcarried, ?_⟩
        rw [hcarried, Json.orElse_eq_orElse_iff]

theorem refreshSession_refreshToken_hourWorld :
    (hourWorld none).sessions.get? "s" = some (sampleSession bareToken) ∧
      ∃ fresh after, (sampleProvider.refreshSession (some "s")).perform (hourWorld none) =
          (.ok (some fresh), after) ∧
        (∃ r, after.sent = [r] ∧ r.method = "POST") ∧ fresh.refreshToken = .str "refresh" := by
  have hs : (hourWorld none).sessions.get? "s" = some (sampleSession bareToken) := rfl
  have hsent : (hourWorld none).sent = [] := rfl
  obtain ⟨fresh, after, hdone, htoken⟩ := refreshSession_hourWorld none
  obtain ⟨ms, current, -, -, -, ⟨r, _, hr, hmethod, -⟩, -⟩ := refreshSession_refreshToken hs hdone
  exact ⟨hs, fresh, after, hdone, ⟨r, hr.trans (congrArg (· ++ [r]) hsent), hmethod⟩, htoken⟩

/-- An answer without a refresh token, and a session that landed on the one that is refreshed: the
fresh session has the refresh token of neither the answer nor the grant. -/
theorem refreshSession_otherSession :
    (hourWorld (some otherSession)).sessions.get? "s" = some (sampleSession bareToken) ∧
      (hourWorld (some otherSession)).NextGrants (TokenEndpoint.hourPayload fullToken)
        sampleMoment ∧
      ((TokenEndpoint.hourPayload fullToken).get "refresh_token").isSet = false ∧
      ∃ fresh after, (sampleProvider.refreshSession (some "s")).perform
          (hourWorld (some otherSession)) = (.ok (some fresh), after) ∧
        fresh.refreshToken = .str "other" ∧
        fresh.refreshToken ≠ (sampleSession bareToken).refreshToken := by
  obtain ⟨fresh, after, hdone, htoken⟩ := refreshSession_hourWorld (some otherSession)
  refine ⟨rfl, ⟨_, _, _, rfl, rfl, rfl, TokenEndpoint.grants_hourPayload fullToken⟩, rfl, fresh,
    after, hdone, htoken, ?_⟩
  rw [htoken]
  exact fun h ↦ absurd (Json.str.inj h) (by decide)

/-! ## Refreshes that commit -/

/-- A refresh that did something made the session anew of the answer, and nobody interfered. -/
theorem gives_of_refreshIfNeeded (h : w.sessions.get? name = some s)
    (hdone : (p.refreshIfNeeded (some name)).perform w = (.ok true, after)) :
    s.needsRefresh w.now = .ok true ∧
      ∃ ms renewed, w.NextGrants ms after.now ∧ after.sessions.get? name = some renewed ∧
        (Origin.answer ms after.now after.now).Gives p renewed ∧
        renewed.refreshToken = (ms.get "refresh_token").orElse s.refreshToken := by
  rcases steps_of_refreshIfNeeded h hdone with
    ⟨hfalse, -⟩ | ⟨pending, _, r, fresh, renewed, -, hbegin, -, hrenewed, hfinish, hnow, hget⟩
  · cases hfalse
  · obtain ⟨hneeds, hpending⟩ := Session.beginRefresh_eq_some_iff.mp hbegin
    obtain ⟨ms, hgrants, hfrom, htoken⟩ := gives_of_renew hrenewed
    obtain ⟨hversion, rfl⟩ := PendingRefresh.finish_eq_ok_iff.mp hfinish
    -- the version is the one that was read, so nothing has landed
    have hnone : w.inFlight name = [] := by
      rw [← Session.version_after_eq_iff s, ← hversion, hpending]
    rw [hnone, Session.after_nil] at hget
    rw [← hnow] at hgrants hfrom
    refine ⟨hneeds, ms, _, hgrants, hget, Origin.gives_of_agrees (s.agrees_replaced _)
      (Origin.gives_of_agrees (s.agrees_carryOver fresh) hfrom), ?_⟩
    exact (Session.carryOver_refreshToken s fresh).trans
      (by rw [htoken, Json.orElse_empty_orElse])

/-- A session that is not due is left alone, and nothing is sent. -/
theorem refreshIfNeeded_of_not_needed (h : w.sessions.get? name = some s)
    (hneeds : s.needsRefresh w.now = .ok false) :
    (p.refreshIfNeeded (some name)).perform w = (.ok false, w) := by
  obtain ⟨entries, hperform⟩ := perform_refreshIfNeeded p h
  rw [hperform, Session.beginRefresh_eq_none_iff.mpr hneeds]

/-- **How long a refresh lasts.** What a refresh leaves can be refreshed again. It is not due before
the declared seconds have passed since the answer came, whatever else has happened, and due from
then on. If no seconds are declared, or none that are positive, it is due at any time. -/
theorem refreshIfNeeded_lifetime (h : w.sessions.get? name = some s)
    (hdone : (p.refreshIfNeeded (some name)).perform w = (.ok true, after)) :
    ∃ ms renewed, w.NextGrants ms after.now ∧ after.sessions.get? name = some renewed ∧
      renewed.refreshToken.isSet = true ∧
      TokenBundle.Lasts after.now (ms.get "expires_in") ∧
      (∀ n, (ms.get "expires_in").toInteger = .ok n → 0 < n →
        ∀ t : Moment, t.isAware = after.now.isAware →
          (t.instant < after.now.instant + n * microsPerSecond →
            needsRefresh (some renewed) t = .ok false ∧
              ∀ v : World, v.now = t → v.sessions.get? name = some renewed →
                (p.refreshIfNeeded (some name)).perform v = (.ok false, v)) ∧
          (after.now.instant + n * microsPerSecond ≤ t.instant →
            needsRefresh (some renewed) t = .ok true)) ∧
      (ms.get "expires_in" = .null ∨ ms.get "expires_in" = .str "" ∨
          (∃ n, (ms.get "expires_in").toInteger = .ok n ∧ n ≤ 0) →
        ∀ t, needsRefresh (some renewed) t = .ok true) := by
  obtain ⟨hneeds, ms, renewed, hgrants, hrenewed, hfrom, htoken⟩ :=
    gives_of_refreshIfNeeded h hdone
  have hset : renewed.refreshToken.isSet = true := by
    rw [htoken]
    exact Json.isSet_orElse (Session.isSet_of_needsRefresh hneeds)
  refine ⟨ms, renewed, hgrants, hrenewed, hset, Origin.lasts_of_gives hfrom, ?_, ?_⟩
  · intro n hn hpos t hclock
    have hdue := Origin.needsRefresh_of_pos hfrom hset hn hpos hclock
    constructor
    · intro hbefore
      rw [decide_eq_false (Int.not_le.mpr hbefore)] at hdue
      refine ⟨hdue, fun v hv hsession ↦ refreshIfNeeded_of_not_needed hsession ?_⟩
      rw [hv]
      exact hdue
    · intro hpast
      rw [decide_eq_true hpast] at hdue
      exact hdue
  · intro hspent t
    refine Origin.needsRefresh_of_spent hfrom hset fun n hn ↦ ?_
    rcases hspent with hnull | hempty | ⟨m, hm, hle⟩
    · rw [hnull] at hn
      cases hn
    · rw [hempty] at hn
      cases hn
    · cases hm.symm.trans hn
      exact hle

theorem refreshIfNeeded_hourWorld : ∃ after,
    (sampleProvider.refreshIfNeeded (some "s")).perform (hourWorld none) = (.ok true, after) := by
  obtain ⟨url, fresh, hpost, hrenewed, -⟩ := hour_renewed
  have hs : (hourWorld none).sessions.get? "s" = some (sampleSession bareToken) := rfl
  have hbegin : (sampleSession bareToken).beginRefresh (hourWorld none).now =
    .ok (some samplePending) := rfl
  have hrenew (r : Request) : sampleProvider.receive ((hourWorld none).send r).2.now url
      ((hourWorld none).send r).1 >>= sampleProvider.renew ((hourWorld none).send r).2.now =
        .ok fresh := by
    obtain ⟨hanswer, hnow⟩ := send_hourWorld none r
    rw [hanswer, hnow, hrenewed]
  have hresult := refreshIfNeeded_of_renewed hs hbegin hpost rfl hrenew
  generalize (sampleProvider.refreshIfNeeded (some "s")).perform (hourWorld none) = performed
    at hresult ⊢
  obtain ⟨result, after⟩ := performed
  cases hresult
  exact ⟨after, rfl⟩

theorem refreshIfNeeded_lifetime_hourWorld :
    (hourWorld none).sessions.get? "s" = some (sampleSession bareToken) ∧
      ∃ after renewed, (sampleProvider.refreshIfNeeded (some "s")).perform (hourWorld none) =
          (.ok true, after) ∧
        after.sessions.get? "s" = some renewed ∧
        ∀ t : Moment, t.isAware = true →
          (needsRefresh (some renewed) t = .ok true ↔
            sampleMoment.instant + 3600 * microsPerSecond ≤ t.instant) := by
  have hs : (hourWorld none).sessions.get? "s" = some (sampleSession bareToken) := rfl
  obtain ⟨after, hdone⟩ := refreshIfNeeded_hourWorld
  obtain ⟨ms, renewed, ⟨d, rest, response, hd, houtcome, hnow, hgranted⟩, hrenewed, -, -, hlives,
    -⟩ := refreshIfNeeded_lifetime hs hdone
  -- the answer is the only delivery there is
  cases hd
  cases houtcome
  cases (TokenEndpoint.grants_hourPayload fullToken).toHolds.payload_eq hgranted.toHolds
  have hhour : ((TokenEndpoint.hourPayload fullToken).get "expires_in").toInteger = .ok 3600 := rfl
  have hsample : after.now = sampleMoment := hnow.symm
  rw [hsample] at hlives
  refine ⟨hs, after, renewed, hdone, hrenewed, fun t haware ↦ ?_⟩
  obtain ⟨hbefore, hpast⟩ := hlives 3600 hhour (by decide) t haware
  refine ⟨fun hdue ↦ Int.not_lt.mp fun hlt ↦ ?_, hpast⟩
  cases (hbefore hlt).1.symm.trans hdue

end Provider

end SessionGate
