import SessionGate.Proofs.Exchanges
import SessionGate.Proofs.IssuedSessions
import SessionGate.Proofs.RequestAccounts

/-!
# Sessions that go out and come back

A caller of the service holds the session it was given and brings it back with the next request.
`Service.Brings` says which session a request is given: the one for its code, or its own after a
refresh. `Service.Posts` is how it comes back, as the text of its record in a body.
`Service.returns_of_brings` follows that session into the answer, into the body and through the
checks.

## The one field that is not closed

The checks read a session again just as it was if its refresh token is a text. The token endpoint
may have sent another value for it, which the provider keeps and the answer shows, and with which no
request passes the checks any more.

Sessions that cannot be written are not handed out at all, `Session.IsWritable`: a surrogate in one
of the texts, an infinite number for the refresh token, or a version of too many digits, leave no
answer.
-/

namespace SessionGate

/-! ## What can be written -/

/-- All that a session consists of can be written. -/
structure Session.IsWritable (s : Session) : Prop where
  accessToken : s.accessToken.isWritable = true
  idToken : s.idToken.isWritable = true
  refreshToken : s.refreshToken.isWritable = true
  email : s.email.isWritable = true
  version : s.version.natAbs < Nat.pow 10 Text.digitLimit

/-- A text that can be written is one of characters. -/
theorem Json.exists_plain_of_isWritable {v : Json} {t : Text} (hv : v = .str t)
    (h : v.isWritable = true) : ∃ s : String, v = .str s := by
  rw [hv] at h
  obtain ⟨s, rfl⟩ := Text.isPlain_iff.mp h
  exact ⟨s, hv⟩

namespace Session.IsPlain

variable {s : Session}

theorem hasPlainEmail (h : s.IsPlain) (hwritable : s.IsWritable) : s.HasPlainEmail := by
  obtain ⟨email, hemail⟩ := h.email
  exact Json.exists_plain_of_isWritable hemail hwritable.email

/-- The record of a plain session can be written if the session can. -/
theorem isWritable_record (h : s.IsPlain) :
    (Json.obj (s.membersWith s.expiresOn.toJson)).isWritable = true ↔ s.IsWritable := by
  have hexpiry : s.expiresOn.toJson.isWritable = true := by
    rcases h.expiresOn with hexpiry | ⟨moment, hexpiry, -⟩ <;> rw [hexpiry] <;> rfl
  have hname (name : String) : (Text.plain name).isPlain = true := rfl
  simp only [membersWith, Json.isWritable, Json.membersAreWritable, hexpiry, hname, Bool.true_and,
    Bool.and_true, Bool.and_eq_true, decide_eq_true_eq]
  constructor
  · rintro ⟨haccess, hid, hrefresh, hemail, hversion⟩
    exact ⟨haccess, hid, hrefresh, hemail, hversion⟩
  · rintro ⟨haccess, hid, hrefresh, hemail, hversion⟩
    exact ⟨haccess, hid, hrefresh, hemail, hversion⟩

/-- It is then read back from its text unless its refresh token is not. -/
theorem isExact_record (h : s.IsPlain) (hwritable : s.IsWritable) {room : Nat}
    (htoken : s.refreshToken.IsExact room) :
    (Json.obj (s.membersWith s.expiresOn.toJson)).IsExact (room + 1) := by
  have htext {v : Json} {t : Text} (hv : v = .str t) (hcan : v.isWritable = true) :
      v.IsExact room := by
    obtain ⟨chars, rfl⟩ := Json.exists_plain_of_isWritable hv hcan
    exact Text.isJoined_plain chars
  have hexpiry : s.expiresOn.toJson.IsExact room := by
    rcases h.expiresOn with hexpiry | ⟨moment, hexpiry, -⟩ <;> rw [hexpiry] <;>
      simp [Expiry.toJson, Json.IsExact, Text.isJoined_plain]
  obtain ⟨accessToken, haccess⟩ := h.accessToken
  obtain ⟨idToken, hid⟩ := h.idToken
  obtain ⟨email, hemail⟩ := h.email
  -- the record is an object with one more level than the refresh token has
  have hnames : (Members.names (s.membersWith s.expiresOn.toJson)).Nodup := by
    simp [Members.names, membersWith]
  have hname (name : String) : (Text.plain name).IsJoined := Text.isJoined_plain name
  refine ⟨hnames, ?_⟩
  simp only [membersWith, Json.MembersAreExact, hname, true_and, and_true]
  exact ⟨htext haccess hwritable.accessToken, htext hid hwritable.idToken, htoken, hexpiry,
    htext hemail hwritable.email, hwritable.version⟩

end Session.IsPlain

/-! ## Records in bodies -/

namespace Http

variable {α : Type} {read : Members → Checked α} {a : α}

theorem Content.record_eq_valid_iff {content : Content} :
    content.record read = .valid a ↔
      ∃ ms, content = .document (.obj ms) ∧ read ms = .valid a := by
  cases content with
  | document v =>
    rw [record, Checked.under_eq_valid_iff]
    cases v with
    | obj ms => simp [Checked.record]
    | _ => simp [Checked.record, Checked.fault]
  | _ => simp [record]

theorem Request.record?_eq_some_iff {r : Request} :
    r.record? read = some a ↔
      ∃ ms, r.content = .ok (.document (.obj ms)) ∧ read ms = .valid a := by
  rw [record?]
  cases r.content with
  | error fault => simp
  | ok content =>
    have hvalid : (content.record read).toExcept.toOption = some a ↔
        content.record read = .valid a := by
      cases content.record read <;> simp [Checked.toExcept, Except.toOption]
    simp only [hvalid, Content.record_eq_valid_iff, Except.ok.injEq]

end Http

namespace Service

/-! ## Performing endpoints -/

section Perform

variable {α : Type} {r : Http.Request} {w : World}

/-- A body with its record is worked on. -/
theorem withPayload_of_record? {read : Members → Checked α} {a : α}
    (h : r.record? read = some a) (x : α → Action Http.Response) : withPayload r read x = x a := by
  obtain ⟨ms, hcontent, hread⟩ := Http.Request.record?_eq_some_iff.mp h
  have hrecord := Http.Content.record_eq_valid_iff.mpr ⟨ms, rfl, hread⟩
  rw [withPayload, hcontent]
  simp only [hrecord]

/-- An operation that succeeds is counted and keeps its result. -/
theorem perform_counted_of_ok (s : Service) {operation : String} {outcome : α → String}
    {x : Action α} {a : α} {after : World} (h : x.perform w = (.ok a, after)) :
    ∃ counted, (s.counted operation outcome x).perform w = (.ok a, counted) ∧
      counted.sessions = after.sessions ∧ counted.sent = after.sent := by
  rw [counted, Action.perform_bind, Action.perform_tryCatch, h]
  exact ⟨_, rfl, rfl, rfl⟩

/-- The result of answering with a value. -/
def replied (v : Json) : Except Failure Http.Response :=
  if v.isWritable then .ok (.of 200 (.json v)) else .error (.defect .unwritable)

theorem perform_reply (v : Json) (w : World) : (reply 200 v).perform w = (replied v, w) := by
  rw [reply, replied]
  split <;> rfl

end Perform

/-! ## Sessions in answers -/

/-- The world in which a request works on its session. -/
def holding (w : World) (session : Session) : World :=
  { w with
    sessions := [(sessionName, session)]
    journal := w.journal.setUser session.email }

/-- The session that a request is given by the provider: the one for its code, or its own after a
refresh. -/
inductive Brings (p : Provider) (r : Http.Request) (w : World) : Session → Prop where
  | redeemed {payload : CodePayload} {session : Session} (hpath : r.path = "/auth/redeem")
      (hpayload : r.record? CodePayload.ofMembers = some payload)
      (hdone : ((p.redeem payload.redirectUrl payload.code).perform w).1 = .ok session) :
      Brings p r w session
  | refreshed {payload : SessionPayload} {own session : Session} {done : Bool} {after : World}
      (hpath : r.path = "/auth/refresh") (hpayload : r.record? SessionPayload.ofBody = some payload)
      (hown : payload.toSession = .ok own)
      (hdone : (p.refreshIfNeeded (some sessionName)).perform (holding w own) = (.ok done, after))
      (hsession : after.sessions.get? sessionName = some session) : Brings p r w session

variable {s : Service} {p : Provider} {r : Http.Request} {w : World} {session : Session}

/-- The session payload of a request is the record in one member of its body. -/
theorem ofMembers_of_record? {payload : SessionPayload}
    (h : r.record? SessionPayload.ofBody = some payload) :
    ∃ ms, SessionPayload.ofMembers ms = .valid payload := by
  obtain ⟨body, -, hbody⟩ := Http.Request.record?_eq_some_iff.mp h
  obtain ⟨v, -, hv⟩ := Checked.required_eq_valid_iff.mp hbody
  cases v with
  | obj ms => exact ⟨ms, hv⟩
  | _ => cases hv

theorem isUniversal_entered (h : w.IsUniversal) (id : String) : (entered w id).IsUniversal :=
  ⟨h.now, h.deliveries⟩

/-- What a request is given is plain. -/
theorem isPlain_of_brings (hclock : w.IsUniversal) (h : Brings p r w session) :
    session.IsPlain := by
  cases h with
  | redeemed hpath hpayload hdone =>
    rw [Provider.redeem_eq_trade] at hdone
    exact Provider.isPlain_of_trade hclock hdone
  | @refreshed payload own _ done after hpath hpayload hown hdone hsession =>
    obtain ⟨ms, hms⟩ := ofMembers_of_record? hpayload
    obtain ⟨t, ht, hplain, -⟩ := SessionPayload.isPlain_of_ofMembers hms
    cases hown.symm.trans ht
    have hclock' : (holding w own).IsUniversal := ⟨hclock.now, hclock.deliveries⟩
    -- the session came with the request, or it was made of an answer
    obtain ⟨u, hu, hleft⟩ := Provider.isPlain_of_refreshIfNeeded hclock' rfl hplain hdone
    cases hsession.symm.trans hu
    exact hleft

/-! ## Answers to what is posted -/

theorem preflight?_of_post {c : Http.Cors} (h : r.method = "POST") : c.preflight? r = none := by
  cases hpreflight : c.preflight? r with
  | none => rfl
  | some response =>
    have hoptions := (preflight_kept hpreflight).1
    rw [h] at hoptions
    exact absurd hoptions (by decide)

theorem dispatch_of_sessionRoute (hp : s.provider = some p) {route : Route}
    (hroute : route ∈ sessionRoutes) (hmethod : r.method ∈ route.methods)
    (hpath : r.path = route.path) : s.dispatch r = s.answerAt route.endpoint r := by
  have hsome : s.provider.isSome = true := by rw [hp]; rfl
  rw [dispatch, hpath, s.destination_of_sessionRoute hsome hroute hmethod]

/-- What is posted is answered with the response to it, apart from headers. -/
theorem serve_of_post (hmethod : r.method = "POST") (w : World) :
    match ((s.answerOrError r).perform (entered w (requestId r))).1 with
    | .ok response =>
      (s.serve r w).1.status = response.status ∧ (s.serve r w).1.body = response.body
    | .error _ => (s.serve r w).1 = .crashed := by
  have hhead : ¬r.method = "HEAD" := by rw [hmethod]; decide
  rcases hperform : (s.answerOrError r).perform (entered w (requestId r)) with
    ⟨failure | response, raw⟩
  · have hanswer : (s.answer r).perform (entered w (requestId r)) = (.error failure, raw) := by
      rw [answer, preflight?_of_post hmethod]
      simp only [Action.perform_bind, hperform]
    rw [s.serve_of_error hanswer, Http.Response.forMethod, if_neg hhead]
  · have hanswer : (s.answer r).perform (entered w (requestId r)) =
        (.ok (response.withHeaders (s.cors.answerHeaders r)), raw) := by
      rw [answer, preflight?_of_post hmethod]
      simp only [Action.perform_bind, hperform, Action.perform_pure]
    rw [s.serve_of_ok hanswer, Http.Response.forMethod, if_neg hhead]
    exact ⟨rfl, rfl⟩

/-- Only an error that is answered is answered with something else than what was dispatched. -/
theorem perform_answerOrError {result : Except Failure Http.Response}
    (h : ((s.dispatch r).perform w).1 = result)
    (hanswered : ∀ error, result ≠ .error (.refused error)) :
    ((s.answerOrError r).perform w).1 = result := by
  rcases hdispatch : (s.dispatch r).perform w with ⟨failure | response, raw⟩
  · rw [hdispatch] at h
    subst h
    rw [answerOrError, Action.perform_tryCatch, hdispatch]
    cases failure with
    | refused error => exact absurd rfl (hanswered error)
    | defect defect => rfl
  · rw [hdispatch] at h
    rw [answerOrError, Action.perform_tryCatch, hdispatch]
    exact h

theorem serve_of_response (hmethod : r.method = "POST") {response : Http.Response}
    (h : ((s.dispatch r).perform (entered w (requestId r))).1 = .ok response) :
    (s.serve r w).1.status = response.status ∧ (s.serve r w).1.body = response.body := by
  have hserve := @serve_of_post s r hmethod w
  rw [perform_answerOrError h fun _ h ↦ (nomatch h)] at hserve
  exact hserve

theorem serve_of_defect (hmethod : r.method = "POST") {defect : Defect}
    (h : ((s.dispatch r).perform (entered w (requestId r))).1 = .error (.defect defect)) :
    (s.serve r w).1 = .crashed := by
  have hserve := @serve_of_post s r hmethod w
  rw [perform_answerOrError h fun _ h ↦ (nomatch h)] at hserve
  exact hserve

theorem perform_sessionMember (hplain : session.IsPlain) (w : World) :
    (sessionMember session).perform w =
      (.ok ("session", .obj (session.membersWith session.expiresOn.toJson)), w) := by
  rw [sessionMember, Action.perform_bind, Action.perform_liftDefect, hplain.toMembers_eq]
  rfl

/-- What is asked of `/auth/refresh` is replied with the session that the provider leaves. -/
theorem perform_refresh (s : Service) (hplain : session.IsPlain) {payload : SessionPayload}
    {own : Session} {done : Bool} {after : World}
    (hpayload : r.record? SessionPayload.ofBody = some payload) (hown : payload.toSession = .ok own)
    (hdone : (p.refreshIfNeeded (some sessionName)).perform (holding w own) = (.ok done, after))
    (hsession : after.sessions.get? sessionName = some session) :
    ∃ raw, (s.refresh p r).perform w = (replied (.obj [("refreshed", .bool done),
        ("session", .obj (session.membersWith session.expiresOn.toJson))]), raw) ∧
      raw.sent = after.sent := by
  obtain ⟨counted, hcounted, hkept, hsent⟩ := @perform_counted_of_ok _ (holding w own) s "refresh"
    (fun done ↦ if done then "refreshed" else "fresh") _ _ _ hdone
  refine ⟨counted, ?_, hsent⟩
  rw [← hkept] at hsession
  rw [holding] at hcounted
  rw [refresh, withSession, withPayload_of_record? hpayload]
  simp only [Action.perform_bind, Action.perform_liftDefect, hown, mapError_ok,
    Action.perform_modify, setUser, hcounted, Action.perform_session_of_some hsession,
    perform_sessionMember hplain, perform_reply]

theorem dispatch_refresh (hp : s.provider = some p) (hmethod : r.method = "POST")
    (hpath : r.path = "/auth/refresh") : s.dispatch r = s.refresh p r := by
  rw [@dispatch_of_sessionRoute s p r hp ⟨"/auth/refresh", ["POST"], .refresh⟩ (by decide)
    (by rw [hmethod]; decide) hpath]
  simp only [answerAt, hp]

/-- A session that a request is given is replied in its answer. -/
theorem dispatch_of_brings (hp : s.provider = some p) (hmethod : r.method = "POST")
    (hplain : session.IsPlain) (h : Brings p r w session) :
    ∃ members : Members, members.get? "session" =
        some (.obj (session.membersWith session.expiresOn.toJson)) ∧
      (Json.obj members).isWritable =
        (Json.obj (session.membersWith session.expiresOn.toJson)).isWritable ∧
      ((s.dispatch r).perform w).1 = replied (.obj members) := by
  cases h with
  | @redeemed payload _ hpath hpayload hdone =>
    refine ⟨[("session", .obj (session.membersWith session.expiresOn.toJson))], rfl,
      by simp only [Json.isWritable, Json.membersAreWritable, Bool.and_true]; rfl, ?_⟩
    have hdispatch : s.dispatch r = s.redeem p r := by
      rw [@dispatch_of_sessionRoute s p r hp ⟨"/auth/redeem", ["POST"], .redeem⟩ (by decide)
        (by rw [hmethod]; decide) hpath]
      simp only [answerAt, hp]
    rcases hredeem : (p.redeem payload.redirectUrl payload.code).perform w with ⟨result, after⟩
    rw [hredeem] at hdone
    cases hdone
    obtain ⟨counted, hcounted, -⟩ :=
      @perform_counted_of_ok _ w s "redeem" (fun _ ↦ "ok") _ _ _ hredeem
    rw [hdispatch, redeem, withPayload_of_record? hpayload]
    simp only [Action.perform_bind, hcounted, setUser, Action.perform_modify, Action.perform_log,
      perform_sessionMember hplain, perform_reply]
  | @refreshed payload own _ done after hpath hpayload hown hdone hsession =>
    refine ⟨[("refreshed", .bool done),
      ("session", .obj (session.membersWith session.expiresOn.toJson))], rfl,
      by simp only [Json.isWritable, Json.membersAreWritable, Bool.and_true]; rfl, ?_⟩
    obtain ⟨raw, hperform, -⟩ := s.perform_refresh hplain hpayload hown hdone hsession
    rw [dispatch_refresh hp hmethod hpath, hperform]

/-! ## Sessions that come back -/

def sessionPaths : List String :=
  ["/auth/refresh", "/auth/validate", "/auth/authorize", "/auth/userinfo"]

/-- A request brings a record of a session. -/
structure Carries (r : Http.Request) (ms : Members) : Prop where
  method : r.method = "POST"
  path : r.path ∈ sessionPaths
  content : r.content = .ok (.document (.obj [("session", .obj ms)]))

/-- A request brings the text of a record of a session. -/
structure Posts (r : Http.Request) (style : JsonStyle) (ms : Members) : Prop where
  method : r.method = "POST"
  path : r.path ∈ sessionPaths
  contentType : (r.header? "content-type").map Http.isJsonType = some true
  body : r.body = Text.utf8 ((Json.obj [("session", .obj ms)]).write style)

/-- The text of a record is read as the record. -/
theorem carries_of_posts {style : JsonStyle} (hstyle : style.IsStandard) {ms : Members}
    (hms : (Json.obj ms).IsExact (Json.depthLimit - 1)) (h : Posts r style ms) :
    Carries r ms := by
  have hexact : (Json.obj [("session", .obj ms)]).IsExact Json.depthLimit := by
    refine ⟨by simp [Members.names], ?_⟩
    exact ⟨Text.isJoined_plain _, hms, trivial⟩
  have hread : Json.ofBytes r.body = .ok (.obj [("session", .obj ms)]) := by
    rw [h.body, Json.ofBytes_write hstyle hexact.isLegible]
  have hbody : r.body.isEmpty = false := by
    cases hempty : r.body with
    | nil =>
      have hnothing : (Json.ofBytes []).toOption.isNone = true := by decide +kernel
      rw [← hempty, hread] at hnothing
      cases hnothing
    | cons b bs => rfl
  refine ⟨h.method, h.path, ?_⟩
  rw [Http.Request.content, hbody, h.contentType, hread]
  rfl

/-- The action does not answer with the status of a body that has faults. -/
def IsFaultless (x : Action Http.Response) : Prop :=
  ∀ w response, (x.perform w).1 = .ok response → response.status ≠ 422

section IsFaultless

variable {α : Type}

theorem isFaultless_bind (x : Action α) {f : α → Action Http.Response}
    (hf : ∀ a, IsFaultless (f a)) : IsFaultless (x >>= f) := by
  intro w response h
  rw [Action.perform_bind] at h
  rcases hx : x.perform w with ⟨failure | a, after⟩
  · rw [hx] at h
    cases h
  · rw [hx] at h
    exact hf a after response h

theorem isFaultless_escape (defect : Defect) : IsFaultless (Action.escape defect) :=
  fun _ _ h ↦ (nomatch h)

theorem isFaultless_reply {status : Nat} (h : status ≠ 422) (v : Json) :
    IsFaultless (reply status v) := by
  rw [reply]
  split
  · intro w response hresponse
    cases hresponse
    exact h
  · exact isFaultless_escape _

theorem isFaultless_tryCatch {x : Action Http.Response} {handle : Failure → Action Http.Response}
    (hx : IsFaultless x) (hhandle : ∀ failure, IsFaultless (handle failure)) :
    IsFaultless (tryCatch x handle) := by
  intro w response h
  rw [Action.perform_tryCatch] at h
  rcases hperform : x.perform w with ⟨failure | answer, after⟩
  · rw [hperform] at h
    exact hhandle failure after response h
  · rw [hperform] at h
    exact hx w response (by rw [hperform]; exact h)

end IsFaultless

/-- What a session is brought to works on it, and finds no faults in it. -/
theorem dispatch_of_sessionPath (hp : s.provider = some p) (hmethod : r.method = "POST")
    (hpath : r.path ∈ sessionPaths) :
    ∃ x, s.dispatch r = withSession r x ∧ ∀ session, IsFaultless (x session) := by
  have hmember {route : Route} (hroute : route ∈ sessionRoutes) (hpost : route.methods = ["POST"])
      (hpath : r.path = route.path) : s.dispatch r = s.answerAt route.endpoint r :=
    dispatch_of_sessionRoute hp hroute (by rw [hmethod, hpost]; decide) hpath
  have hreply (v : Json) : IsFaultless (reply 200 v) := isFaultless_reply (by decide) v
  simp only [sessionPaths, List.mem_cons, List.not_mem_nil, or_false] at hpath
  -- what they work out is always replied with status 200
  rcases hpath with hpath | hpath | hpath | hpath
  · rw [@hmember ⟨"/auth/refresh", ["POST"], .refresh⟩ (by decide) rfl hpath]
    simp only [answerAt, hp]
    exact ⟨_, rfl, fun session ↦ isFaultless_bind _ fun _ ↦ isFaultless_bind _ fun _ ↦
      isFaultless_bind _ fun _ ↦ hreply _⟩
  · rw [@hmember ⟨"/auth/validate", ["POST"], .validate⟩ (by decide) rfl hpath]
    simp only [answerAt, hp]
    exact ⟨_, rfl, fun session ↦ isFaultless_bind _ fun _ ↦ hreply _⟩
  · rw [@hmember ⟨"/auth/authorize", ["POST"], .authorize⟩ (by decide) rfl hpath]
    simp only [answerAt, hp]
    exact ⟨_, rfl, fun session ↦ isFaultless_bind _ fun _ ↦ hreply _⟩
  · rw [@hmember ⟨"/auth/userinfo", ["POST"], .userinfo⟩ (by decide) rfl hpath]
    simp only [answerAt, hp]
    exact ⟨_, rfl, fun session ↦ isFaultless_bind _ fun _ ↦ hreply _⟩

theorem isFaultless_answerError (error : AccessError) : IsFaultless (s.answerError error) := by
  have hkind : error.kind.status ≠ 422 := by
    cases error.kind <;> exact fun h ↦ (nomatch h)
  refine isFaultless_bind _ fun _ ↦ isFaultless_bind _ fun _ ↦ ?_
  cases error.response with
  | valid body => exact isFaultless_reply hkind _
  | invalid faults => exact isFaultless_escape _

/-- A request whose session has passed the checks is not answered with faults. -/
theorem serve_status_ne (hp : s.provider = some p) (hmethod : r.method = "POST")
    (hpath : r.path ∈ sessionPaths) {payload : SessionPayload}
    (hpayload : r.record? SessionPayload.ofBody = some payload) (w : World) :
    (s.serve r w).1.status ≠ 422 := by
  obtain ⟨x, hdispatch, hx⟩ := dispatch_of_sessionPath hp hmethod hpath
  have hworks : IsFaultless (s.dispatch r) := by
    rw [hdispatch, withSession, withPayload_of_record? hpayload]
    exact isFaultless_bind _ fun _ ↦ isFaultless_bind _ fun _ ↦ isFaultless_bind _ fun _ ↦ hx _
  have hanswers : IsFaultless (s.answerOrError r) := by
    refine isFaultless_tryCatch hworks fun failure ↦ ?_
    cases failure with
    | refused error => exact isFaultless_answerError error
    | defect defect => exact isFaultless_escape defect
  have hserve := @serve_of_post s r hmethod w
  cases hresult : ((s.answerOrError r).perform (entered w (requestId r))).1 with
  | ok response =>
    rw [hresult] at hserve
    rw [hserve.1]
    exact hanswers _ response hresult
  | error failure =>
    rw [hresult] at hserve
    rw [hserve]
    exact (by decide : Http.Response.crashed.status ≠ 422)

/-- The fault of a refresh token that is no text. -/
def tokenFault : FieldFault :=
  ⟨[Http.Content.place, .member "session", .member "refresh_token"], .notString⟩

/-- **A record of a plain session is taken back as that session, or refused for its refresh
token.** -/
theorem serve_of_carries (hp : s.provider = some p) (hplain : session.IsPlain)
    (hwritable : session.IsWritable) {ms : Members} (hms : session.toMembers = .ok ms)
    (hback : Carries r ms) :
    (session.HasTextToken → (∀ w, (s.serve r w).1.status ≠ 422) ∧
      ∃ payload, r.record? SessionPayload.ofBody = some payload ∧
        payload.toSession = .ok session) ∧
    (¬session.HasTextToken →
      ∀ w, (s.serve r w).1.status = 422 ∧ (s.serve r w).1.body = .faults [tokenFault]) := by
  have hemail := hplain.hasPlainEmail hwritable
  constructor
  · intro htoken
    obtain ⟨payload, hpayload, hsession⟩ :=
      SessionPayload.toSession_of_record hplain hemail htoken hms
    have hrecord : r.record? SessionPayload.ofBody = some payload :=
      Http.Request.record?_eq_some_iff.mpr ⟨_, hback.content,
        Checked.required_eq_valid_iff.mpr ⟨_, rfl, hpayload⟩⟩
    exact ⟨serve_status_ne hp hback.method hback.path hrecord, payload, hrecord, hsession⟩
  · intro htoken w
    have hfaults : (Http.Content.document (.obj [("session", .obj ms)])).record
        SessionPayload.ofBody = .invalid [tokenFault] := by
      have hread := SessionPayload.ofMembers_of_token hplain hemail htoken hms
      rw [Http.Content.record, Checked.record, SessionPayload.ofBody,
        Checked.required_of_get? (v := .obj ms) rfl, Checked.record, hread]
      rfl
    -- the fault shows the token that was brought, so that has to be one that can be written
    have hreport : (Http.Content.document (.obj [("session", .obj ms)])).canReport [tokenFault] =
        true := by
      cases hplain.toMembers_eq.symm.trans hms
      rw [Http.Content.canReport, List.all_cons, List.all_nil, Bool.and_true]
      exact hwritable.refreshToken
    obtain ⟨x, hdispatch, -⟩ := dispatch_of_sessionPath hp hback.method hback.path
    have hanswer : ((s.dispatch r).perform (entered w (requestId r))).1 =
        .ok (.of 422 (.faults [tokenFault])) := by
      rw [hdispatch, withSession, withPayload, hback.content]
      simp only [hfaults, hreport, if_true]
      rfl
    exact serve_of_response hback.method hanswer

/-- The answer shows the record of the session if that can be written. Otherwise there is none. -/
theorem serve_of_brings (hp : s.provider = some p) (hmethod : r.method = "POST")
    (hplain : session.IsPlain) (h : Brings p r (entered w (requestId r)) session) :
    (session.IsWritable → (s.serve r w).1.status = 200 ∧ ∃ members : Members,
        (s.serve r w).1.body = .json (.obj members) ∧
          members.get? "session" = some (.obj (session.membersWith session.expiresOn.toJson))) ∧
      (¬session.IsWritable → (s.serve r w).1 = .crashed) := by
  obtain ⟨members, hget, hwritable, hresult⟩ := dispatch_of_brings hp hmethod hplain h
  have hwritten := hplain.isWritable_record
  rw [← hwritable] at hwritten
  rw [replied] at hresult
  constructor
  · intro hcan
    rw [if_pos (hwritten.mpr hcan)] at hresult
    obtain ⟨hstatus, hbody⟩ := serve_of_response hmethod hresult
    exact ⟨hstatus, members, hbody, hget⟩
  · intro hcannot
    rw [if_neg fun h ↦ hcannot (hwritten.mp h)] at hresult
    exact serve_of_defect hmethod hresult

/-- **Sessions that are handed out come back.** The session that a request is given has a record. If
it can be written, the record is in the answer, and otherwise there is no answer. Its text in a body
brings the record back. Whoever brings it back gets the same session read out of it if its refresh
token is a text, and if it is none is told so instead, wherever it is brought. -/
theorem returns_of_brings (hp : s.provider = some p) (hclock : w.IsUniversal)
    (hmethod : r.method = "POST") (h : Brings p r (entered w (requestId r)) session) :
    ∃ ms, session.toMembers = .ok ms ∧
      (¬session.IsWritable → (s.serve r w).1 = .crashed) ∧
      (session.IsWritable →
        ((s.serve r w).1.status = 200 ∧ ∃ members : Members,
          (s.serve r w).1.body = .json (.obj members) ∧
            members.get? "session" = some (.obj ms)) ∧
        (session.refreshToken.IsExact (Json.depthLimit - 2) →
          ∀ style back, style.IsStandard → Posts back style ms → Carries back ms) ∧
        ∀ back, Carries back ms →
          (session.HasTextToken → (∀ w', (s.serve back w').1.status ≠ 422) ∧
            ∃ payload, back.record? SessionPayload.ofBody = some payload ∧
              payload.toSession = .ok session) ∧
          (¬session.HasTextToken → ∀ w', (s.serve back w').1.status = 422 ∧
            (s.serve back w').1.body = .faults [tokenFault])) := by
  have hplain := isPlain_of_brings (isUniversal_entered hclock _) h
  obtain ⟨hanswered, hcrashed⟩ := serve_of_brings hp hmethod hplain h
  refine ⟨_, hplain.toMembers_eq, hcrashed, fun hwritable ↦ ⟨hanswered hwritable, ?_, ?_⟩⟩
  · intro htoken style back hstyle hback
    exact carries_of_posts hstyle (hplain.isExact_record hwritable htoken) hback
  · intro back hback
    exact serve_of_carries hp hplain hwritable hplain.toMembers_eq hback

/-! ## A refresh token that is no text -/

/-- An answer with an identity token and some refresh token. -/
def grantedMembers (refreshToken : Json) : Members :=
  [("access_token", .str "new"), ("refresh_token", refreshToken), ("id_token", .str fullToken)]

def grantedAnswer (refreshToken : Json) : Response where
  status := 200
  body := Text.utf8 ((Json.obj (grantedMembers refreshToken)).write .compact)

def grantedWorld (refreshToken : Json) : World where
  now := sampleMoment
  deliveries := [{ outcome := .answered (grantedAnswer refreshToken) }]

def grantedBundle (refreshToken : Json) : TokenBundle where
  accessToken := "new"
  tokenType := .str "Bearer"
  refreshToken := refreshToken
  expiry := none
  extra := grantedMembers refreshToken

/-- The request of a code that is answered so. -/
def grantedStart (refreshToken : Json) : World :=
  entered (grantedWorld refreshToken) (requestId codeRequest)

section Granted

variable {refreshToken : Json}

theorem read_grantedAnswer (hset : refreshToken.isSet = true)
    (hexact : refreshToken.IsExact (Json.depthLimit - 1)) :
    TokenEndpoint.read (grantedAnswer refreshToken) sampleMoment =
      .ok (grantedBundle refreshToken) := by
  have hdocument : Json.ofBytes (Text.utf8 ((Json.obj (grantedMembers refreshToken)).write
      .compact)) = .ok (.obj (grantedMembers refreshToken)) := by
    refine Json.ofBytes_write JsonStyle.isStandard_compact
      ⟨?_, Text.isJoined_plain _, Text.isJoined_plain _, Text.isJoined_plain _, hexact.isLegible,
        Text.isJoined_plain _, Text.isJoined_plain _, trivial⟩
    exact (by decide : ([.plain "access_token", .plain "refresh_token", .plain "id_token"] :
      List Text).Nodup)
  have hgrants : (grantedAnswer refreshToken).Grants (grantedMembers refreshToken) :=
    ⟨⟨rfl, hdocument, rfl⟩, "new", by decide, rfl⟩
  have htoken : refreshToken.orElse (.str "") = refreshToken := if_pos hset
  have hne : Text.plain "new" ≠ .plain "" := by decide
  exact TokenEndpoint.read_eq_ok_iff.mpr ⟨_, hgrants, rfl, rfl, hne, rfl, htoken.symm,
    none, .null, .undeclared⟩

theorem exchange_grantedStart (hset : refreshToken.isSet = true)
    (hexact : refreshToken.IsExact (Json.depthLimit - 1)) :
    ∃ after, (sampleProvider.data.tokenEndpoint.exchange (.code "c" "https://app")).perform
        (grantedStart refreshToken) = (.ok (grantedBundle refreshToken), after) ∧
      after.now = sampleMoment := by
  obtain ⟨arrived, hreceives, hnow⟩ :
      ∃ arrived, (grantedStart refreshToken).Receives TokenEndpoint.sampleRequest
        (.ok (grantedAnswer refreshToken)) arrived ∧ arrived.now = sampleMoment :=
    TokenEndpoint.receives_sampleRequest rfl rfl
  have hread := read_grantedAnswer hset hexact
  rw [← hnow] at hread
  rw [World.Receives.perform_exchange hreceives, TokenEndpoint.conclude, hread]
  -- what is logged is not to be looked into
  generalize TokenEndpoint.report _ _ _ = entries
  exact ⟨_, rfl, hnow⟩

/-- The code is redeemed for a session with that refresh token. -/
theorem brings_granted (hset : refreshToken.isSet = true)
    (hexact : refreshToken.IsExact (Json.depthLimit - 1)) :
    ∃ session, Brings sampleProvider codeRequest (grantedStart refreshToken) session ∧
      session.refreshToken = refreshToken ∧
      (refreshToken.isWritable = true → session.IsWritable) := by
  obtain ⟨after, hexchange, hnow⟩ := exchange_grantedStart hset hexact
  obtain ⟨entries, htrade⟩ := sampleProvider.perform_trade (.code "c" "https://app")
    Provider.redeemError (grantedStart refreshToken)
  have hpayload : codeRequest.record? CodePayload.ofMembers = some ⟨"c", "https://app"⟩ := by
    decide +kernel
  have hid : (grantedBundle refreshToken).idToken? = some (.plain fullToken) := by
    have hne : Text.plain fullToken ≠ .plain "" := by decide +kernel
    exact (Json.nonEmptyStr?_eq_some_iff _ _).mpr ⟨rfl, hne⟩
  have hsession (bundle : TokenBundle) (idToken : String) :
      ∃ session, sampleProvider.sessionOf bundle idToken fullClaims = .ok session ∧
        session.accessToken = .str bundle.accessToken ∧ session.idToken = .str idToken ∧
        session.refreshToken = bundle.refreshToken ∧ session.email = .str "a@b" ∧
        session.version = 0 :=
    ⟨_, rfl, rfl, rfl, rfl, rfl, rfl⟩
  obtain ⟨session, hmade, haccess, hidToken, hkept, hemail, hversion⟩ :=
    hsession (grantedBundle refreshToken) fullToken
  have hproject : sampleProvider.project after.now.seconds (grantedBundle refreshToken) =
      .ok session := by
    have hcheck : sampleProvider.verifier.check sampleMoment.seconds (.str fullToken) =
        .ok fullClaims := check_fullToken
    rw [hnow, Provider.project_of_check hid hcheck, hmade]
  have hrenew := Provider.renew_eq_ok_iff.mpr hproject
  have hwritten (hcan : refreshToken.isWritable = true) : session.IsWritable := by
    refine ⟨by rw [haccess]; rfl, by rw [hidToken]; rfl, hkept ▸ hcan, by rw [hemail]; rfl, ?_⟩
    rw [hversion]
    exact Json.lt_pow_of_lt_ten (by decide) (by decide)
  refine ⟨session, .redeemed rfl hpayload ?_, hkept, hwritten⟩
  rw [Provider.redeem_eq_trade, htrade, hexchange]
  simp only [hrenew]

end Granted

theorem isUniversal_grantedWorld (refreshToken : Json) :
    (grantedWorld refreshToken).IsUniversal := by
  refine ⟨rfl, fun d hd m hm ↦ ?_⟩
  rw [List.mem_singleton.mp hd] at hm
  cases hm

def posted (path : String) (ms : Members) : Http.Request where
  method := "POST"
  path
  headers := [("content-type", "application/json")]
  body := Text.utf8 ((Json.obj [("session", .obj ms)]).write .compact)

theorem posts_posted {path : String} (h : path ∈ sessionPaths) (ms : Members) :
    Posts (posted path ms) .compact ms := by
  have hjson : Http.isJsonType "application/json" = true := by decide +kernel
  exact ⟨rfl, h, congrArg some hjson, rfl⟩

theorem returns_of_brings_text : ∃ session,
    sampleService.provider = some sampleProvider ∧ (grantedWorld (.str "again")).IsUniversal ∧
      codeRequest.method = "POST" ∧
      Brings sampleProvider codeRequest (grantedStart (.str "again")) session ∧
      ∃ ms, session.toMembers = .ok ms ∧
        (sampleService.serve codeRequest (grantedWorld (.str "again"))).1.status = 200 ∧
        ∀ path ∈ sessionPaths,
          (∀ w, (sampleService.serve (posted path ms) w).1.status ≠ 422) ∧
            ∃ payload, (posted path ms).record? SessionPayload.ofBody = some payload ∧
              payload.toSession = .ok session := by
  have hclock := isUniversal_grantedWorld (.str "again")
  obtain ⟨session, hbrings, htoken, hwritten⟩ :=
    @brings_granted (.str "again") rfl (Text.isJoined_plain _)
  obtain ⟨ms, hms, -, hreturned⟩ :=
    @returns_of_brings sampleService sampleProvider codeRequest (grantedWorld (.str "again"))
      session rfl hclock rfl hbrings
  obtain ⟨hanswer, hposts, hreturns⟩ := hreturned (hwritten rfl)
  have hexact : session.refreshToken.IsExact (Json.depthLimit - 2) := by
    rw [htoken]
    exact Text.isJoined_plain _
  refine ⟨session, rfl, hclock, rfl, hbrings, ms, hms, hanswer.1, fun path hpath ↦ ?_⟩
  have hcarries := hposts hexact .compact _ JsonStyle.isStandard_compact (posts_posted hpath ms)
  exact (hreturns _ hcarries).1 ⟨_, htoken⟩

/-- A session with a number for its refresh token is handed out and never taken back. -/
theorem serve_granted_number : ∃ session,
    Brings sampleProvider codeRequest (grantedStart (.int 5)) session ∧
      ∃ ms, session.toMembers = .ok ms ∧
        (sampleService.serve codeRequest (grantedWorld (.int 5))).1.status = 200 ∧
        (∃ members : Members, (sampleService.serve codeRequest (grantedWorld (.int 5))).1.body =
          .json (.obj members) ∧ members.get? "session" = some (.obj ms)) ∧
        ∀ path ∈ sessionPaths, ∀ w, (sampleService.serve (posted path ms) w).1.status = 422 := by
  have hclock : (grantedStart (.int 5)).IsUniversal :=
    isUniversal_entered (isUniversal_grantedWorld (.int 5)) _
  have hfive : (5 : Int).natAbs < Nat.pow 10 Text.digitLimit :=
    Json.lt_pow_of_lt_ten (by decide) (by decide)
  obtain ⟨session, hbrings, htoken, hwritten⟩ := @brings_granted (.int 5) rfl hfive
  have hplain := isPlain_of_brings hclock hbrings
  have hexact : session.refreshToken.IsExact (Json.depthLimit - 2) := by
    rw [htoken]
    exact hfive
  have hwritable : session.IsWritable :=
    hwritten (by rw [Json.isWritable, decide_eq_true hfive])
  have hno : ¬session.HasTextToken := by
    rintro ⟨t, ht⟩
    rw [htoken] at ht
    cases ht
  have hanswer := (@serve_of_brings sampleService sampleProvider codeRequest (grantedWorld (.int 5))
    session rfl rfl hplain hbrings).1 hwritable
  refine ⟨session, hbrings, _, hplain.toMembers_eq, hanswer.1, hanswer.2, fun path hpath w ↦ ?_⟩
  have hcarries := carries_of_posts JsonStyle.isStandard_compact
    (hplain.isExact_record hwritable hexact) (posts_posted hpath _)
  exact ((serve_of_carries rfl hplain hwritable hplain.toMembers_eq hcarries).2 hno w).1

end Service

end SessionGate
