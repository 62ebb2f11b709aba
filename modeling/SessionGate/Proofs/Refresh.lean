import SessionGate.Proofs.Acceptance
import SessionGate.Proofs.Flight
import SessionGate.Proofs.JsonEquality
import SessionGate.Proofs.Perform
import SessionGate.Proofs.Steps
import SessionGate.Provider

/-!
# What a refresh does

A refresh looks at a session, posts a grant, makes a session of the answer, looks at the first
session again and commits. The equations below take it apart in that order. `Provider.receive` and
`Provider.renew` say what a reply comes to, apart from the world, and `perform_refreshIfNeeded` puts
the parts together. The main statement is `refreshIfNeeded_all_or_nothing`.

## Why a failure leaves the session alone

The only write is `Action.setSession` after a commit that succeeded, and nothing fails after it:
what could still fail is the text of the two expiries in the log, and a session that is stale has no
expiry or a moment, and so has a session that was made of a bundle.

## Why a success means that nobody interfered

A commit is made for the version that was read before the grant. Everybody who commits adds one to
the version and nobody takes anything from it, so the version is the same after the flight only if
nothing landed. The refresh token that is carried over is read after the flight, and it is the right
one for the same reason.
-/

namespace SessionGate

/-! ## Commits -/

namespace Session

/-- A commit for a version succeeds on that version only. -/
theorem commit_int (s fresh : Session) (n : Int) :
    s.commit fresh (.int n) =
      if n = s.version then .ok (s.replaced fresh)
      else .error (conflict (.int n) s.version) := by
  rw [commit]
  by_cases h : n = s.version
  · rw [if_pos h, (Json.same_int_iff n s.version).mpr h]
    rfl
  · have hfalse : (Json.int n).same (.int s.version) = false := by
      rw [← Bool.not_eq_true, Json.same_int_iff]
      exact h
    rw [if_neg h, hfalse]
    rfl

/-- A commit that succeeds replaces the credentials, whatever version it is for. -/
theorem eq_replaced_of_commit {s fresh after : Session} {expected : Json}
    (h : s.commit fresh expected = .ok after) : after = s.replaced fresh := by
  rw [commit] at h
  split at h
  · cases h
    rfl
  · cases h

theorem carryOver_expiresOn (s fresh : Session) :
    (s.carryOver fresh).expiresOn = fresh.expiresOn := by
  rw [carryOver]
  split <;> rfl

/-- Only the refresh token is carried over. -/
theorem carryOver_kept (s fresh : Session) :
    (s.carryOver fresh).accessToken = fresh.accessToken ∧
      (s.carryOver fresh).idToken = fresh.idToken ∧ (s.carryOver fresh).email = fresh.email := by
  rw [carryOver]
  split <;> exact ⟨rfl, rfl, rfl⟩

theorem carryOver_refreshToken (s fresh : Session) :
    (s.carryOver fresh).refreshToken = fresh.refreshToken.orElse s.refreshToken := by
  rw [carryOver, Json.orElse]
  split <;> rfl

end Session

theorem PendingRefresh.finish_eq (p : PendingRefresh) (s fresh : Session) :
    p.finish s fresh =
      if p.version = s.version then .ok (s.replaced (s.carryOver fresh))
      else .error (Session.conflict (.int p.version) s.version) :=
  Session.commit_int s (s.carryOver fresh) p.version

/-- A refresh is finished on the version it began with. -/
theorem PendingRefresh.finish_eq_ok_iff {p : PendingRefresh} {s fresh after : Session} :
    p.finish s fresh = .ok after ↔
      p.version = s.version ∧ s.replaced (s.carryOver fresh) = after := by
  rw [finish_eq]
  by_cases h : p.version = s.version
  · rw [if_pos h, and_iff_right h, Except.ok.injEq]
  · rw [if_neg h]
    exact iff_of_false (fun hok ↦ nomatch hok) (fun hand ↦ h hand.1)

theorem PendingRefresh.expiresOn_of_finish {p : PendingRefresh} {s fresh after : Session}
    (h : p.finish s fresh = .ok after) : after.expiresOn = fresh.expiresOn := by
  obtain ⟨-, rfl⟩ := finish_eq_ok_iff.mp h
  exact Session.carryOver_expiresOn s fresh

/-! ## Staleness -/

/-- A session that is known to have expired has an expiry with a text, if it has one. -/
theorem Session.text?_of_isExpired {s : Session} {now : Moment} {expired : Bool}
    (h : s.isExpired now = .ok expired) : ∃ t, s.expiresOn.text? = .ok t := by
  rw [isExpired] at h
  cases he : s.expiresOn with
  | unset => exact ⟨none, rfl⟩
  | «at» moment => exact ⟨some moment.iso, rfl⟩
  | odd value => rw [he] at h; cases h

/-- A refresh begins exactly on a session that needs it, and keeps what it saw. -/
theorem Session.beginRefresh_eq_some_iff {s : Session} {now : Moment} {pending : PendingRefresh} :
    s.beginRefresh now = .ok (some pending) ↔
      s.needsRefresh now = .ok true ∧ pending = ⟨s.version, s.expiresOn, s.refreshToken⟩ := by
  rw [beginRefresh]
  rcases s.needsRefresh now with defect | _ | _ <;> simp [eq_comm]

theorem Session.beginRefresh_eq_none_iff {s : Session} {now : Moment} :
    s.beginRefresh now = .ok none ↔ s.needsRefresh now = .ok false := by
  rw [beginRefresh]
  rcases s.needsRefresh now with defect | _ | _ <;> simp

theorem Session.text?_of_beginRefresh {s : Session} {now : Moment} {pending : PendingRefresh}
    (h : s.beginRefresh now = .ok (some pending)) : ∃ t, pending.expiresOn.text? = .ok t := by
  obtain ⟨hneeds, rfl⟩ := beginRefresh_eq_some_iff.mp h
  rw [needsRefresh] at hneeds
  by_cases hset : s.refreshToken.isSet = true
  · rw [if_pos hset] at hneeds
    exact text?_of_isExpired hneeds
  · rw [if_neg hset] at hneeds
    cases hneeds

/-! ## Projection -/

theorem Json.nonEmptyStr?_eq_some_iff (v : Json) (t : Text) :
    v.nonEmptyStr? = some t ↔ v = .str t ∧ t ≠ "" := by
  cases v with
  | str u =>
    by_cases h : u = ""
    · rw [nonEmptyStr?, if_pos h]
      refine ⟨fun hnone ↦ (nomatch hnone), ?_⟩
      rintro ⟨hut, hne⟩
      cases hut
      exact absurd h hne
    · simp only [nonEmptyStr?, if_neg h, Option.some.injEq, str.injEq]
      exact ⟨fun hut ↦ ⟨hut, hut ▸ h⟩, And.left⟩
  | _ => simp [nonEmptyStr?]

namespace Provider

def expiryOf (bundle : TokenBundle) : Expiry :=
  (bundle.expiry.map Expiry.at).getD .unset

/-- **What a projection takes from where.** The identity token of the bundle verifies, its claims
name an email, and the session consists of the tokens of the bundle and of that email. -/
theorem project_eq_ok {p : Provider} {now : Int} {bundle : TokenBundle} {fresh : Session}
    (h : p.project now bundle = .ok fresh) :
    ∃ idToken claims, bundle.idToken? = some idToken ∧
      p.verifier.check now (.str idToken) = .ok claims ∧
      p.data.emailVerified claims = true ∧
      fresh.accessToken = .str bundle.accessToken ∧ fresh.idToken = .str idToken ∧
      fresh.refreshToken = bundle.refreshToken ∧ fresh.expiresOn = expiryOf bundle ∧
      fresh.email = claims.get "email" ∧ fresh.version = 0 := by
  rw [project] at h
  cases hid : bundle.idToken? with
  | none => rw [hid] at h; cases h
  | some idToken =>
    rw [hid] at h
    simp only at h
    cases hcheck : p.verifier.check now (.str idToken) with
    | error fault => rw [hcheck] at h; cases h
    | ok claims =>
      rw [hcheck] at h
      simp only [sessionOf] at h
      cases hemail : (claims.get "email").nonEmptyStr? with
      | none => rw [hemail] at h; cases h
      | some email =>
        rw [hemail] at h
        obtain ⟨hget, hne⟩ := (Json.nonEmptyStr?_eq_some_iff _ _).mp hemail
        have hset : (Json.str email).isSet = true := by simp [Json.isSet, hne]
        by_cases hverified : p.data.emailVerified claims = true
        · simp only [if_pos hverified, Session.make, dif_pos hset] at h
          cases h
          exact ⟨idToken, claims, rfl, hcheck, hverified, rfl, rfl, rfl, rfl, hget.symm, rfl⟩
        · simp only [if_neg hverified] at h
          cases h

theorem project_of_check {p : Provider} {now : Int} {bundle : TokenBundle} {idToken : Text}
    {claims : Members} (hid : bundle.idToken? = some idToken)
    (hcheck : p.verifier.check now (.str idToken) = .ok claims) :
    p.project now bundle = p.sessionOf bundle idToken claims := by
  rw [project, hid]
  simp only [hcheck]

theorem text?_of_project {p : Provider} {now : Int} {bundle : TokenBundle} {fresh : Session}
    (h : p.project now bundle = .ok fresh) : ∃ t, fresh.expiresOn.text? = .ok t := by
  obtain ⟨_, _, _, _, _, _, _, _, hexpiry, _⟩ := project_eq_ok h
  rw [hexpiry, expiryOf]
  cases bundle.expiry with
  | none => exact ⟨none, rfl⟩
  | some moment => exact ⟨some moment.iso, rfl⟩

/-! ## Grants in flight -/

def grantRequest (p : Provider) (pending : PendingRefresh) : Request :=
  p.data.tokenEndpoint.request (.refresh pending.refreshToken)

/-- The URL that a pending refresh posts its grant to, on a connection that may be closed. -/
@[irreducible]
def post (p : Provider) (pending : PendingRefresh) (isClosed : Bool) : Except Defect Url := do
  let url ← (p.grantRequest pending).destination
  if isClosed then .error .clientClosed else .ok url

/-- What is posted has a body. -/
theorem content?_of_post {p : Provider} {pending : PendingRefresh} {isClosed : Bool} {url : Url}
    (h : p.post pending isClosed = .ok url) :
    ∃ body, (p.grantRequest pending).content? = some body := by
  rw [post] at h
  obtain ⟨_, hdestination, -⟩ := bind_eq_ok_iff.mp h
  obtain ⟨_, body, -, -, hbody, -⟩ := Request.destination_eq_ok_iff.mp hdestination
  exact ⟨body, hbody⟩

/-- The bundle that the outcome of a posted grant brings. -/
def receive (p : Provider) (now : Moment) (url : Url) (outcome : Except Defect Outcome) :
    Except Failure TokenBundle :=
  match outcome.bind (·.reply url) with
  | .error defect => .error (.defect defect)
  | .ok reply => (p.data.tokenEndpoint.conclude now reply).mapError (.map refreshError)

/-- The fresh session of a bundle. -/
def renew (p : Provider) (now : Moment) (bundle : TokenBundle) : Except Failure Session :=
  (p.project now.seconds bundle).mapError fun fault ↦ fault.toFailure.map updateError

def projectionEntries : Except ProjectionFault Session → List LogEntry
  | .ok _ => []
  | .error fault => fault.entries

/-- A bundle is read in an answer that came. -/
theorem receive_eq_ok {p : Provider} {now : Moment} {url : Url} {outcome : Except Defect Outcome}
    {bundle : TokenBundle} (h : p.receive now url outcome = .ok bundle) :
    ∃ response, outcome = .ok (.answered response) ∧
      TokenEndpoint.read response now = .ok bundle := by
  rw [receive] at h
  cases outcome with
  | error defect => cases h
  | ok o =>
    cases o with
    | failed fault => cases h
    | invalidUrl => cases h
    | answered response =>
      simp only [Except.bind, Outcome.reply] at h
      by_cases habs : url.isAbsolute = true
      · simp only [if_pos habs, TokenEndpoint.conclude] at h
        exact ⟨response, rfl, mapError_eq_ok_iff.mp (mapError_eq_ok_iff.mp h)⟩
      · simp only [if_neg habs] at h
        cases h

theorem renew_eq_ok_iff {p : Provider} {now : Moment} {bundle : TokenBundle} {fresh : Session} :
    p.renew now bundle = .ok fresh ↔ p.project now.seconds bundle = .ok fresh :=
  mapError_eq_ok_iff

theorem perform_createSession (p : Provider) (bundle : TokenBundle) (w : World) :
    (p.createSession bundle).perform w =
      ((p.project w.now.seconds bundle).mapError ProjectionFault.toFailure,
        w.written (projectionEntries (p.project w.now.seconds bundle))) := by
  rw [createSession, Action.perform_bind, Action.perform_now]
  cases hproject : p.project w.now.seconds bundle with
  | ok s => simp only [hproject, Action.perform_pure]; rfl
  | error fault =>
    simp only [hproject, Action.perform_bind, Action.perform_logAll, Action.perform_lift]
    rfl

theorem perform_send_grantRequest (p : Provider) (pending : PendingRefresh) (w : World) :
    (Action.send (p.grantRequest pending)).perform w =
      match p.post pending w.isClosed with
      | .error defect => (.error (.defect defect), w)
      | .ok url =>
        let sent := w.send ((p.grantRequest pending).sentTo url)
        ((sent.1.bind (·.reply url)).mapError .defect, sent.2) := by
  rw [Action.perform_send, post]
  cases (p.grantRequest pending).destination with
  | error defect => rfl
  | ok url =>
    by_cases hclosed : w.isClosed = true
    · simp only [if_pos hclosed]
      rfl
    · simp only [if_neg hclosed]
      rfl

/-- A pending refresh posts its grant; what the outcome comes to depends on the time it is there. -/
theorem perform_redeemRefresh (p : Provider) (pending : PendingRefresh) (w : World) :
    ∃ entries, (p.redeemRefresh pending).perform w =
      match p.post pending w.isClosed with
      | .error defect => (.error (.defect defect), w)
      | .ok url =>
        let sent := w.send ((p.grantRequest pending).sentTo url)
        (p.receive sent.2.now url sent.1 >>= p.renew sent.2.now, sent.2.written entries) := by
  rw [redeemRefresh, Action.perform_bind, Action.perform_mapError, TokenEndpoint.exchange,
    Action.perform_bind, ← grantRequest, perform_send_grantRequest]
  cases p.post pending w.isClosed with
  | error defect => exact ⟨[], rfl⟩
  | ok url =>
    simp only
    rcases w.send ((p.grantRequest pending).sentTo url) with ⟨outcome, after⟩
    simp only [receive]
    cases outcome.bind (·.reply url) with
    | error defect => exact ⟨[], rfl⟩
    | ok reply =>
      simp only [mapError_ok, Action.perform_bind, Action.perform_now, Action.perform_logAll,
        Action.perform_lift]
      cases p.data.tokenEndpoint.conclude after.now reply with
      | error failure =>
        exact ⟨TokenEndpoint.report (.refresh pending.refreshToken) after.now reply, rfl⟩
      | ok bundle =>
        refine ⟨TokenEndpoint.report (.refresh pending.refreshToken) after.now reply ++
          projectionEntries (p.project after.now.seconds bundle), ?_⟩
        simp only [mapError_ok, Action.perform_mapError, perform_createSession, World.written_now,
          World.written_written]
        rw [show (Except.ok bundle >>= p.renew after.now) = p.renew after.now bundle from rfl,
          renew]
        cases p.project after.now.seconds bundle with
        | error fault => rfl
        | ok fresh => rfl

/-! ## A refresh from its beginning to its end -/

/-- What is left of a refresh after its commit: a line of the log. -/
theorem perform_report (pending : PendingRefresh) (after : Session) (name : String) (w : World)
    (hpending : ∃ t, pending.expiresOn.text? = .ok t)
    (hafter : ∃ t, after.expiresOn.text? = .ok t) :
    ∃ entry, Action.perform (do
        Action.setSession name after
        let expiredOn ← Action.liftDefect pending.expiresOn.text?
        let expiresOn ← Action.liftDefect after.expiresOn.text?
        Action.log (refreshedEntry after expiredOn expiresOn)
        return true) w =
      (.ok true, { w with sessions := w.sessions.set name after }.written [entry]) := by
  obtain ⟨expiredOn, hexpired⟩ := hpending
  obtain ⟨expiresOn, hexpires⟩ := hafter
  refine ⟨refreshedEntry after expiredOn expiresOn, ?_⟩
  simp only [Action.perform_bind, Action.perform_setSession, Action.perform_liftDefect, hexpired,
    hexpires, mapError_ok, Action.perform_log, Action.perform_pure]

/-- **The course of a refresh.** After the grant was posted, the session it finishes on is the one
at the beginning with what landed on it in flight. -/
theorem perform_refreshIfNeeded (p : Provider) {name : String} {w : World} {s : Session}
    (h : w.sessions.get? name = some s) :
    ∃ entries, (p.refreshIfNeeded (some name)).perform w =
      match s.beginRefresh w.now with
      | .error defect => (.error (.defect defect), w)
      | .ok none => (.ok false, w)
      | .ok (some pending) =>
        match p.post pending w.isClosed with
        | .error defect => (.error (.defect defect), w)
        | .ok url =>
          let sent := w.send ((p.grantRequest pending).sentTo url)
          match p.receive sent.2.now url sent.1 >>= p.renew sent.2.now with
          | .error failure => (.error failure, sent.2.written entries)
          | .ok fresh =>
            match pending.finish (s.after (w.inFlight name)) fresh with
            | .error error => (.error (.refused error), sent.2.written entries)
            | .ok after =>
              (.ok true,
                { sent.2 with sessions := sent.2.sessions.set name after }.written entries) := by
  rw [refreshIfNeeded, Action.perform_bind, Action.perform_session_of_some h]
  simp only [Action.perform_bind, Action.perform_now, Action.perform_liftDefect]
  cases hbegin : s.beginRefresh w.now with
  | error defect => exact ⟨[], rfl⟩
  | ok begun =>
    cases begun with
    | none => exact ⟨[], rfl⟩
    | some pending =>
      obtain ⟨entries, hredeem⟩ := perform_redeemRefresh p pending w
      simp only [mapError_ok, Action.perform_bind, hredeem]
      cases p.post pending w.isClosed with
      | error failure => exact ⟨[], rfl⟩
      | ok url =>
        have hlanded := World.send_session ((p.grantRequest pending).sentTo url) h
        simp only
        generalize w.send ((p.grantRequest pending).sentTo url) = sent at hlanded ⊢
        cases hrenewed : p.receive sent.2.now url sent.1 >>= p.renew sent.2.now with
        | error failure => exact ⟨entries, rfl⟩
        | ok fresh =>
          -- the session is looked up again, with everything that has landed on it
          have hsession := @Action.perform_session_of_some name (sent.2.written entries) _ hlanded
          simp only [hsession]
          cases hfinish : pending.finish (s.after (w.inFlight name)) fresh with
          | error error => exact ⟨entries, rfl⟩
          | ok after =>
            obtain ⟨bundle, -, hrenew⟩ := bind_eq_ok_iff.mp hrenewed
            have hafter : ∃ t, after.expiresOn.text? = .ok t := by
              rw [PendingRefresh.expiresOn_of_finish hfinish]
              exact text?_of_project (renew_eq_ok_iff.mp hrenew)
            obtain ⟨entry, hreport⟩ := perform_report pending after name (sent.2.written entries)
              (Session.text?_of_beginRefresh hbegin) hafter
            refine ⟨entries ++ [entry], hreport.trans ?_⟩
            simp only [← World.written_written]
            rfl

/-- A refresh that does not fail finds nothing to do, or goes through all its steps. -/
theorem steps_of_refreshIfNeeded {p : Provider} {name : String} {w after : World} {s : Session}
    {done : Bool} (h : w.sessions.get? name = some s)
    (hdone : (p.refreshIfNeeded (some name)).perform w = (.ok done, after)) :
    done = false ∧ after = w ∨
      ∃ pending url r fresh renewed, done = true ∧ s.beginRefresh w.now = .ok (some pending) ∧
        r = (p.grantRequest pending).sentTo url ∧
        (p.receive (w.send r).2.now url (w.send r).1 >>= p.renew (w.send r).2.now) = .ok fresh ∧
        pending.finish (s.after (w.inFlight name)) fresh = .ok renewed ∧
        after.now = (w.send r).2.now ∧ after.sessions.get? name = some renewed := by
  obtain ⟨entries, hperform⟩ := perform_refreshIfNeeded p h
  rw [hperform] at hdone
  rcases hbegin : s.beginRefresh w.now with defect | _ | pending
  · rw [hbegin] at hdone; cases hdone
  · rw [hbegin] at hdone; cases hdone; exact .inl ⟨rfl, rfl⟩
  · rw [hbegin] at hdone
    simp only at hdone
    cases hpost : p.post pending w.isClosed with
    | error defect => rw [hpost] at hdone; cases hdone
    | ok url =>
      rw [hpost] at hdone
      simp only at hdone
      refine .inr ⟨pending, url, (p.grantRequest pending).sentTo url, ?_⟩
      generalize w.send ((p.grantRequest pending).sentTo url) = sent at hdone ⊢
      cases hrenewed : p.receive sent.2.now url sent.1 >>= p.renew sent.2.now with
      | error failure => rw [hrenewed] at hdone; cases hdone
      | ok fresh =>
        rw [hrenewed] at hdone
        simp only at hdone
        cases hfinish : pending.finish (s.after (w.inFlight name)) fresh with
        | error error => rw [hfinish] at hdone; cases hdone
        | ok renewed =>
          rw [hfinish] at hdone
          cases hdone
          exact ⟨fresh, renewed, rfl, rfl, rfl, rfl, hfinish, rfl, Sessions.get?_set_self _ _ _⟩

/-- A refresh that is answered with a session and not disturbed succeeds. -/
theorem refreshIfNeeded_of_renewed {p : Provider} {name : String} {w : World} {s fresh : Session}
    {pending : PendingRefresh} {url : Url} (h : w.sessions.get? name = some s)
    (hbegin : s.beginRefresh w.now = .ok (some pending))
    (hpost : p.post pending w.isClosed = .ok url) (hnone : w.inFlight name = [])
    (hrenewed : ∀ r, (p.receive (w.send r).2.now url (w.send r).1 >>= p.renew (w.send r).2.now) =
      .ok fresh) :
    ((p.refreshIfNeeded (some name)).perform w).1 = .ok true := by
  obtain ⟨entries, hperform⟩ := perform_refreshIfNeeded p h
  have hversion : pending.version = s.version := by
    rw [(Session.beginRefresh_eq_some_iff.mp hbegin).2]
  rw [hperform, hbegin]
  simp only [hpost, hrenewed, hnone, Session.after_nil, PendingRefresh.finish_eq, hversion,
    if_true]

/-- **A refresh is all or nothing.** It fails and leaves the session to the others, it finds nothing
to do and does nothing, or it replaces all credentials by those of the answer; which of the three it
is can be told from what it returns. -/
theorem refreshIfNeeded_all_or_nothing (p : Provider) {name : String} {w : World} {s : Session}
    (h : w.sessions.get? name = some s) :
    match (p.refreshIfNeeded (some name)).perform w with
    | (.error _, after) =>
      after.sent = w.sent ∧ after.sessions.get? name = some s ∨
        (∃ r, after.sent = w.sent ++ [r]) ∧
          after.sessions.get? name = some (s.after (w.inFlight name))
    | (.ok false, after) => s.needsRefresh w.now = .ok false ∧ after = w
    | (.ok true, after) =>
      s.needsRefresh w.now = .ok true ∧ w.inFlight name = [] ∧
        (∃ r body, after.sent = w.sent ++ [r] ∧ r.method = "POST" ∧ r.content? = some body ∧
          Form.encode? (p.data.tokenEndpoint.pairs (.refresh s.refreshToken)) = some body) ∧
        ∃ d rest response bundle idToken claims renewed,
          w.deliveries = d :: rest ∧ d.outcome = .answered response ∧
          TokenEndpoint.read response after.now = .ok bundle ∧
          bundle.idToken? = some idToken ∧
          p.verifier.check after.now.seconds (.str idToken) = .ok claims ∧
          after.sessions.get? name = some renewed ∧ renewed.version = s.version + 1 ∧
          renewed.accessToken = .str bundle.accessToken ∧ renewed.idToken = .str idToken ∧
          renewed.email = claims.get "email" ∧ renewed.expiresOn = expiryOf bundle ∧
          renewed.refreshToken = bundle.refreshToken.orElse s.refreshToken := by
  obtain ⟨entries, hperform⟩ := perform_refreshIfNeeded p h
  rw [hperform]
  cases hbegin : s.beginRefresh w.now with
  | error defect => exact .inl ⟨rfl, h⟩
  | ok begun =>
    cases begun with
    | none => exact ⟨Session.beginRefresh_eq_none_iff.mp hbegin, rfl⟩
    | some pending =>
      obtain ⟨hneeds, hpending⟩ := Session.beginRefresh_eq_some_iff.mp hbegin
      simp only
      cases hpost : p.post pending w.isClosed with
      | error defect => exact .inl ⟨rfl, h⟩
      | ok url =>
        obtain ⟨body, hbody⟩ := content?_of_post hpost
        have hsent := World.send_sent w ((p.grantRequest pending).sentTo url)
        have hlanded := World.send_session ((p.grantRequest pending).sentTo url) h
        have hanswer := fun response ↦
          @World.deliveries_of_send_answered w ((p.grantRequest pending).sentTo url) response
        simp only
        generalize w.send ((p.grantRequest pending).sentTo url) = sent at hsent hlanded hanswer ⊢
        cases hrenewed : p.receive sent.2.now url sent.1 >>= p.renew sent.2.now with
        | error failure => exact .inr ⟨⟨_, hsent⟩, hlanded⟩
        | ok fresh =>
          simp only [PendingRefresh.finish_eq]
          by_cases hversion : pending.version = (s.after (w.inFlight name)).version
          · -- the version is the one that was read, so nothing has landed
            have hnone : w.inFlight name = [] := by
              rw [← Session.version_after_eq_iff s, ← hversion, hpending]
            obtain ⟨bundle, hreceive, hrenew⟩ := bind_eq_ok_iff.mp hrenewed
            obtain ⟨response, houtcome, hread⟩ := receive_eq_ok hreceive
            obtain ⟨d, rest, hd, houtcome⟩ := hanswer response houtcome
            obtain ⟨idToken, claims, hid, hcheck, -, haccess, hidToken, hrefresh, hexpires,
              hemail, -⟩ := project_eq_ok (renew_eq_ok_iff.mp hrenew)
            rw [if_pos hversion, hnone, Session.after_nil]
            refine ⟨hneeds, rfl, ⟨_, body, hsent, rfl, hbody, by rw [← hbody, hpending]; rfl⟩, d,
              rest, response, bundle, idToken, claims, s.replaced (s.carryOver fresh), hd, houtcome,
              hread, hid, hcheck, Sessions.get?_set_self _ _ _, rfl, ?_⟩
            obtain ⟨hkeptAccess, hkeptId, hkeptEmail⟩ := Session.carryOver_kept s fresh
            exact ⟨hkeptAccess.trans haccess, hkeptId.trans hidToken, hkeptEmail.trans hemail,
              (Session.carryOver_expiresOn s fresh).trans hexpires,
              hrefresh ▸ Session.carryOver_refreshToken s fresh⟩
          · rw [if_neg hversion]
            exact .inr ⟨⟨_, hsent⟩, hlanded⟩

end Provider

def sampleMoment : Moment where
  wall := Moment.epochWall + 1893456000 * microsPerSecond
  offset := some 0
  wall_lt := by decide

/-- An answer with an identity token and no refresh token. -/
def sampleAnswer : Response where
  status := 200
  body := Text.utf8 ("\x7b\"access_token\":\"new\",\"id_token\":\"" ++ fullToken ++ "\"\x7d")

def samplePending : PendingRefresh := ⟨0, .unset, .str "refresh"⟩

/-- A world in which a stale session is refreshed undisturbed. -/
def sampleWorld : World where
  now := sampleMoment
  deliveries := [{ outcome := .answered sampleAnswer }]
  sessions := [("s", sampleSession bareToken)]

namespace Provider

/-- The answer makes a session. -/
theorem sample_renewed :
    ∃ url bundle fresh, sampleProvider.post samplePending false = .ok url ∧
      sampleProvider.receive sampleMoment url (.ok (.answered sampleAnswer)) = .ok bundle ∧
      sampleProvider.renew sampleMoment bundle = .ok fresh := by
  have h : ((sampleProvider.post samplePending false).toOption.bind fun url ↦
      (sampleProvider.receive sampleMoment url (.ok (.answered sampleAnswer))).toOption.bind
        TokenBundle.idToken?) = some fullToken := by
    have hletters := @Text.utf8_eq_encodeUtf8
      ("\x7b\"access_token\":\"new\",\"id_token\":\"" ++ fullToken ++ "\"\x7d") _
      (Text.append_eq_ofList (Text.append_eq_ofList rfl (Text.append_eq_ofList
        (Text.append_eq_ofList (Text.append_eq_ofList (Text.append_eq_ofList rfl rfl) rfl) rfl)
        rfl)) rfl)
    rw [sampleAnswer, hletters]
    decide +kernel
  obtain ⟨url, hpost, h⟩ := Option.bind_eq_some_iff.mp h
  obtain ⟨bundle, hreceive, hid⟩ := Option.bind_eq_some_iff.mp h
  have hcheck : sampleProvider.verifier.check sampleMoment.seconds (.str fullToken) =
      .ok fullClaims := check_fullToken
  exact ⟨url, bundle, _, toOption_eq_some_iff.mp hpost, toOption_eq_some_iff.mp hreceive,
    renew_eq_ok_iff.mpr (project_of_check hid hcheck)⟩

theorem sample_refreshed :
    ((sampleProvider.refreshIfNeeded (some "s")).perform sampleWorld).1 = .ok true := by
  obtain ⟨url, bundle, fresh, hpost, hreceive, hrenew⟩ := sample_renewed
  have hs : sampleWorld.sessions.get? "s" = some (sampleSession bareToken) := rfl
  have hbegin : (sampleSession bareToken).beginRefresh sampleWorld.now =
    .ok (some samplePending) := rfl
  exact refreshIfNeeded_of_renewed hs hbegin hpost rfl fun _ ↦
    bind_eq_ok_iff.mpr ⟨bundle, hreceive, hrenew⟩

theorem refreshIfNeeded_sampleWorld :
    sampleWorld.sessions.get? "s" = some (sampleSession bareToken) ∧
      ∃ after renewed,
        (sampleProvider.refreshIfNeeded (some "s")).perform sampleWorld = (.ok true, after) ∧
          (∃ r, after.sent = [r]) ∧ after.sessions.get? "s" = some renewed ∧
          renewed.version = 1 := by
  have hs : sampleWorld.sessions.get? "s" = some (sampleSession bareToken) := rfl
  have hsent : sampleWorld.sent = [] := rfl
  have hresult := sample_refreshed
  refine ⟨hs, ?_⟩
  -- the world is not to be looked into from here on
  generalize sampleWorld = w at hs hsent hresult ⊢
  have h := refreshIfNeeded_all_or_nothing sampleProvider hs
  generalize (sampleProvider.refreshIfNeeded (some "s")).perform w = performed at hresult h ⊢
  obtain ⟨result, after⟩ := performed
  cases hresult
  obtain ⟨-, -, ⟨r, _, hr, -⟩, d, rest, response, bundle, idToken, claims, renewed, -, -, -, -, -,
    hrenewed, hversion, -⟩ := h
  exact ⟨after, renewed, rfl, ⟨r, by rw [hr, hsent]; rfl⟩, hrenewed, hversion⟩

end Provider

end SessionGate
