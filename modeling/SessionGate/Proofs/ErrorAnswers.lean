import SessionGate.Proofs.SessionReturns

/-!
# Errors become answers

An error that the provider refuses a request with is answered as it is: with its status, and with
its code, its message and its details in the body. `Service.serve_of_refuses` says so for every
request to one of the endpoints for sessions, and when there is no such answer.

## What stands in the way

The body is written as JSON. Code and message are texts whatever was refused, but the message may
hand on a text of somebody else, and such a text may hold a surrogate. The details of a code that
was not redeemed hand on what the token endpoint has said, `TokenEndpoint.Tells`: numbers that are
not finite and texts with surrogates are read there and cannot be written. Other errors that hold an
answer of the endpoint name their cause and leave it out.
-/

namespace SessionGate

/-! ## What can be written -/

/-- An object whose names can be written cannot if and only if one of its members cannot. -/
theorem Json.membersAreWritable_eq_false_iff {ms : Members}
    (h : ∀ m ∈ ms, m.1.isPlain = true) :
    membersAreWritable ms = false ↔ ∃ m ∈ ms, m.2.isWritable = false := by
  induction ms with
  | nil => simp [membersAreWritable]
  | cons m rest ih =>
    obtain ⟨n, v⟩ := m
    have hn : n.isPlain = true := h _ List.mem_cons_self
    rw [membersAreWritable, hn, Bool.true_and, Bool.and_eq_false_iff,
      ih fun m hm ↦ h m (List.mem_cons_of_mem _ hm)]
    simp

/-- What is sent has a URL of characters. -/
theorem Action.isPlain_url {r : Request} {w after : World}
    {reply : Except NetworkFault Response} (h : (send r).perform w = (.ok reply, after)) :
    r.url.isPlain = true := by
  rw [perform_send] at h
  cases hdestination : r.destination with
  | error defect =>
    rw [hdestination] at h
    cases h
  | ok url =>
    obtain ⟨url', _, hurl, -⟩ := Request.destination_eq_ok_iff.mp hdestination
    obtain ⟨text, htext, -⟩ := Option.bind_eq_some_iff.mp hurl
    exact Text.isPlain_iff.mpr ⟨text, Text.string?_eq_some_iff.mp htext⟩

/-! ## Errors -/

/-- The code of an error is a text of characters, and its details are an object that is written,
apart from integers of too many digits and some members that are odd. -/
structure AccessError.IsSound (odd : Text × Json → Prop) (e : AccessError) : Prop where
  code : ∃ code : String, e.kind.code = .str code
  details : ∃ members, e.details = .obj members ∧ (∀ m ∈ members, m.1.isPlain = true) ∧
    ∀ m ∈ members, m.2.isWritable = false → (∃ n, m.2 = .int n) ∨ odd m

namespace AccessError

variable {odd : Text × Json → Prop} {e : AccessError}

/-- An error is sound if it has one detail, and that is written, an integer or odd. -/
theorem isSound_of_single {name : String} {v : Json}
    (hcode : ∃ code : String, e.kind.code = .str code)
    (hdetails : e.details = .obj [(.plain name, v)])
    (h : v.isWritable = false → (∃ n, v = .int n) ∨ odd (.plain name, v)) : IsSound odd e := by
  refine ⟨hcode, _, hdetails, fun m hm ↦ ?_, fun m hm ↦ ?_⟩
  · rw [List.mem_singleton.mp hm]
    rfl
  · rw [List.mem_singleton.mp hm]
    exact h

/-- So is an error without details. -/
theorem isSound_of_none (hcode : ∃ code : String, e.kind.code = .str code)
    (hdetails : e.details = .obj []) : e.IsSound odd :=
  ⟨hcode, _, hdetails, fun _ hm ↦ absurd hm List.not_mem_nil,
    fun _ hm ↦ absurd hm List.not_mem_nil⟩

/-- The details of an error that names its cause are written. -/
theorem isSound_of_cause {cause : AccessError} (hcode : ∃ code : String, e.kind.code = .str code)
    (hdetails : e.details = .obj (Provider.causeDetails cause))
    (hcause : ∃ code : String, cause.kind.code = .str code) : e.IsSound odd := by
  obtain ⟨code, hcause⟩ := hcause
  refine isSound_of_single hcode hdetails fun hunwritten ↦ ?_
  rw [hcause] at hunwritten
  cases hunwritten

/-- The error of a code that was not redeemed hands on the details of its cause. -/
theorem IsSound.redeemError (h : e.IsSound odd) : (Provider.redeemError e).IsSound odd := by
  obtain ⟨members, hdetails, hnames, hmembers⟩ := h.details
  obtain ⟨code, hcode⟩ := h.code
  have hsame : e.detailMembers = members := by
    rw [detailMembers, hdetails]
    rfl
  refine ⟨⟨_, rfl⟩, _, rfl, fun m hm ↦ ?_, fun m hm hunwritten ↦ ?_⟩
  · rcases Members.mem_override hm with hm | hm
    · rw [List.mem_singleton.mp hm]
      rfl
    · exact hnames m (hsame ▸ hm)
  · rcases Members.mem_override hm with hm | hm
    · rw [List.mem_singleton.mp hm, hcode] at hunwritten
      cases hunwritten
    · exact hmembers m (hsame ▸ hm) hunwritten

/-- Of an error whose parts are texts and an object, the body of the answer is its parts. -/
theorem response_eq {code message : Text} {details : Members} (hcode : e.kind.code = .str code)
    (hmessage : e.message = .str message) (hdetails : e.details = .obj details) :
    e.response =
      .valid [("code", .str code), ("message", .str message), ("details", .obj details)] := by
  rw [response, hcode, hmessage, hdetails]
  rfl

end AccessError

/-! ## Errors of the endpoints -/

namespace TokenEndpoint

/-- What an answer tells that is handed on as a detail: the error that it rejects a grant with, or
the names in a payload without an access token. -/
inductive Tells (r : Response) (now : Moment) : Text × Json → Prop
  | rejected {status : Int} {error description : Json}
      (h : read r now = .error (.rejected status error description)) : Tells r now ("error", error)
  | fields {ms : Members}
      (h : read r now = .error (.badBundle (.refused (TokenBundle.noAccessToken ms)))) :
      Tells r now ("fields", .arr ((ms.names.mergeSort (· ≤ ·)).map .str))

/-- An answer without an object is at fault for that, or its object makes no bundle. -/
theorem ofMembers_of_read {r : Response} {now : Moment} {failure : Failure}
    (h : read r now = .error (.badBundle failure)) :
    ∃ ms, TokenBundle.ofMembers ms now = .error failure := by
  rw [read] at h
  rcases bind_eq_error_iff.mp h with hpayload | ⟨ms, -, h⟩
  · unfold payload at hpayload
    split at hpayload
    · cases hpayload
    · split at hpayload <;> cases hpayload
    · cases hpayload
    · cases hpayload
  · split at h
    · cases h
    · cases hbundle : TokenBundle.ofMembers ms now with
      | ok bundle => rw [hbundle] at h; cases h
      | error failure' =>
        rw [hbundle] at h
        cases h
        exact ⟨ms, hbundle⟩

theorem isSound_of_conclude {endpoint : TokenEndpoint} {now : Moment}
    {reply : Except NetworkFault Response} {e : AccessError} (hurl : endpoint.url.isPlain = true)
    (h : endpoint.conclude now reply = .error (.refused e)) :
    e.IsSound fun m ↦ ∃ response, reply = .ok response ∧ Tells response now m := by
  cases reply with
  | error fault =>
    cases h
    refine AccessError.isSound_of_single ⟨_, rfl⟩ rfl fun hunwritten ↦ ?_
    exact absurd (hurl.symm.trans hunwritten) (by decide)
  | ok response =>
    rw [conclude] at h
    cases hread : read response now with
    | ok bundle => rw [hread] at h; cases h
    | error fault =>
      rw [hread, mapError_error] at h
      cases fault with
      | tooDeep => cases h
      | unreadable status fault =>
        cases h
        exact AccessError.isSound_of_single ⟨_, rfl⟩ rfl fun _ ↦ .inl ⟨status, rfl⟩
      | notObject status =>
        cases h
        exact AccessError.isSound_of_single ⟨_, rfl⟩ rfl fun _ ↦ .inl ⟨status, rfl⟩
      | rejected status error description =>
        cases h
        refine ⟨⟨_, rfl⟩, _, rfl, fun m hm ↦ ?_, fun m hm _ ↦ ?_⟩ <;>
          rcases List.mem_append.mp hm with hm | hm <;> rw [List.mem_singleton.mp hm]
        · rfl
        · rfl
        · exact .inl ⟨status, rfl⟩
        · exact .inr ⟨response, rfl, .rejected hread⟩
      | badBundle failure =>
        cases h
        obtain ⟨ms, hbundle⟩ := ofMembers_of_read hread
        rcases TokenBundle.refused_of_ofMembers hbundle with rfl | ⟨fault, rfl⟩
        · exact AccessError.isSound_of_single ⟨_, rfl⟩ rfl fun _ ↦
            .inr ⟨response, rfl, .fields hread⟩
        · exact AccessError.isSound_of_none ⟨_, rfl⟩ rfl

end TokenEndpoint

/-- Sending a request refuses nothing. -/
theorem Action.perform_send_ne_refused (request : Request) (w : World) (e : AccessError) :
    ((send request).perform w).1 ≠ .error (.refused e) := by
  rw [perform_send]
  cases request.destination with
  | error defect => exact fun h ↦ by cases h
  | ok url =>
    by_cases hclosed : w.isClosed = true
    · simp only [if_pos hclosed]
      exact fun h ↦ by cases h
    · simp only [if_neg hclosed]
      cases (w.send (request.sentTo url)).1.bind (·.reply url) with
      | error defect => exact fun h ↦ by cases h
      | ok reply => exact fun h ↦ by cases h

/-! ## Errors of the operations -/

/-- A projection that fails is refused under a code that is a text. -/
theorem ProjectionFault.code_of_toFailure {fault : ProjectionFault} {e : AccessError}
    (h : fault.toFailure = .refused e) : ∃ code : String, e.kind.code = .str code := by
  cases fault with
  | noIdToken => cases h; exact ⟨_, rfl⟩
  | noEmail => cases h; exact ⟨_, rfl⟩
  | emailNotVerified email => cases h; exact ⟨_, rfl⟩
  | unverified fault =>
    rw [toFailure] at h
    split at h
    · cases h
    · cases h
      exact ⟨_, rfl⟩

namespace Provider

variable {p : Provider} {e : AccessError} {w : World}

/-- A trade is refused on account of its exchange, or of the projection behind it. -/
theorem refused_of_trade {grant : Grant} {f : AccessError → AccessError}
    (h : ((p.trade grant f).perform w).1 = .error (.refused e)) :
    (∃ cause reply after,
      (Action.send (p.data.tokenEndpoint.request grant)).perform w = (.ok reply, after) ∧
      p.data.tokenEndpoint.conclude after.now reply = .error (.refused cause) ∧ e = f cause) ∨
    ∃ cause, (∃ code : String, cause.kind.code = .str code) ∧ e = updateError cause := by
  obtain ⟨entries, hperform⟩ := p.perform_trade grant f w
  rw [hperform, TokenEndpoint.perform_exchange] at h
  -- nothing is refused before there is a reply, so it was the reply or what came of it
  have hsend := Action.perform_send_ne_refused (p.data.tokenEndpoint.request grant) w
  generalize (Action.send (p.data.tokenEndpoint.request grant)).perform w = sent at hsend h ⊢
  obtain ⟨failure | reply, after⟩ := sent
  · cases failure with
    | refused cause => exact absurd rfl (hsend cause)
    | defect defect => cases h
  · simp only at h
    cases hconclude : p.data.tokenEndpoint.conclude after.now reply with
    | error failure =>
      rw [hconclude] at h
      cases failure with
      | defect defect => cases h
      | refused cause =>
        cases h
        exact .inl ⟨cause, reply, after, rfl, hconclude, rfl⟩
    | ok bundle =>
      rw [hconclude] at h
      simp only [renew] at h
      cases hproject : p.project _ bundle with
      | ok s => rw [hproject] at h; cases h
      | error fault =>
        rw [hproject] at h
        cases hfailure : fault.toFailure with
        | defect defect => simp [mapError_error, hfailure, Failure.map] at h
        | refused cause =>
          simp only [mapError_error, hfailure, Failure.map] at h
          cases h
          exact .inr ⟨cause, ProjectionFault.code_of_toFailure hfailure, rfl⟩

/-- A refresh is refused on account of its trade, or of a commit that came in between. -/
theorem refused_of_refreshIfNeeded {name : Option String}
    (h : ((p.refreshIfNeeded name).perform w).1 = .error (.refused e)) :
    (∃ pending, ((p.redeemRefresh pending).perform w).1 = .error (.refused e)) ∨
      ∃ expected version, e = Session.conflict (.int expected) version := by
  cases name with
  | none => cases h
  | some name =>
    rw [refreshIfNeeded, Action.perform_bind, Action.perform_session] at h
    cases hs : w.sessions.get? name with
    | none => rw [hs] at h; cases h
    | some s =>
      rw [hs] at h
      simp only [Action.perform_bind, Action.perform_now, Action.perform_liftDefect] at h
      rcases hbegin : s.beginRefresh w.now with defect | _ | pending
      · rw [hbegin] at h; cases h
      · rw [hbegin] at h; cases h
      · rw [hbegin] at h
        simp only [mapError_ok, Action.perform_bind] at h
        rcases hredeem : (p.redeemRefresh pending).perform w with ⟨failure | fresh, after⟩
        · rw [hredeem] at h
          cases h
          exact .inl ⟨pending, by rw [hredeem]⟩
        · rw [hredeem] at h
          simp only [Action.perform_session] at h
          cases hlanded : after.sessions.get? name with
          | none => rw [hlanded] at h; cases h
          | some landed =>
            rw [hlanded] at h
            simp only [PendingRefresh.finish_eq] at h
            by_cases hversion : pending.version = landed.version
            · -- a refresh that commits refuses nothing any more
              rw [if_pos hversion] at h
              simp only [Action.perform_bind, Action.perform_setSession,
                Action.perform_liftDefect] at h
              generalize pending.expiresOn.text? = expiredOn at h
              generalize (landed.replaced (landed.carryOver fresh)).expiresOn.text? = expiresOn at h
              cases expiredOn with
              | error defect => cases h
              | ok expiredOn =>
                cases expiresOn with
                | error defect => cases h
                | ok expiresOn => cases h
            · rw [if_neg hversion] at h
              cases h
              exact .inr ⟨pending.version, landed.version, rfl⟩

/-- No verdict about a session is refused. -/
theorem validateSession_ne_refused (s : Session) :
    ((p.validateSession s).perform w).1 ≠ .error (.refused e) := by
  rw [perform_validateSession]
  cases p.verifier.check w.now.seconds s.idToken with
  | ok claims => exact fun h ↦ by cases h
  | error fault =>
    simp only [refusal]
    cases fault.toFailure with
    | refused error => exact fun h ↦ by cases h
    | defect defect => exact fun h ↦ by cases h

theorem validateGroup_ne_refused (s : Session) :
    ((p.validateGroup s).perform w).1 ≠ .error (.refused e) := by
  rw [validateGroup, Action.perform_bind, Action.perform_get]
  simp only [validateUnder, Action.perform_bind, Action.perform_now, Action.perform_logAll,
    Action.perform_liftDefect]
  cases (p.judge w.policy w.now.seconds s.idToken).answer with
  | error defect => exact fun h ↦ by cases h
  | ok verdict => exact fun h ↦ by cases h

end Provider

/-- The errors of the userinfo endpoint. -/
theorem Userinfo.isSound_of_fetchEmail {odd : Text × Json → Prop} {u : Userinfo} {token : Json}
    {w : World} {e : AccessError} (h : ((u.fetchEmail token).perform w).1 = .error (.refused e)) :
    e.IsSound odd ∧ ∃ message, e.message = .str message := by
  rw [fetchEmail, Action.perform_bind] at h
  have hsend := Action.perform_send_ne_refused (u.request token) w
  have hplain := fun reply after ↦ @Action.isPlain_url (u.request token) w after reply
  generalize (Action.send (u.request token)).perform w = sent at hsend hplain h
  obtain ⟨failure | fault | response, after⟩ := sent
  · cases failure with
    | refused cause => exact absurd rfl (hsend cause)
    | defect defect => cases h
  · have hurl : u.url.isPlain = true := hplain _ _ rfl
    cases h
    refine ⟨AccessError.isSound_of_single ⟨_, rfl⟩ rfl fun hunwritten ↦ ?_, _, rfl⟩
    exact absurd (hurl.symm.trans hunwritten) (by decide)
  · simp only [Action.perform_bind, Action.perform_logAll, Action.perform_lift] at h
    unfold read at h
    split at h
    · cases h
      exact ⟨AccessError.isSound_of_single ⟨_, rfl⟩ rfl fun _ ↦ .inl ⟨response.status, rfl⟩, _,
        rfl⟩
    · split at h
      · cases h
      · cases h
        exact ⟨AccessError.isSound_of_none ⟨_, rfl⟩ rfl, _, rfl⟩
      · split at h
        · cases h
        · cases h
          exact ⟨AccessError.isSound_of_none ⟨_, rfl⟩ rfl, _, rfl⟩
      · cases h
        exact ⟨AccessError.isSound_of_none ⟨_, rfl⟩ rfl, _, rfl⟩

namespace Service

variable {s : Service} {p : Provider} {r : Http.Request} {w : World} {e : AccessError}

/-! ## Errors of requests -/

/-- The token endpoint has told something about the code of a request. -/
def CodeAnsweredWith (p : Provider) (r : Http.Request) (w : World) (m : Text × Json) : Prop :=
  ∃ payload response after, r.path = "/auth/redeem" ∧
    r.record? CodePayload.ofMembers = some payload ∧
    (Action.send
      (p.data.tokenEndpoint.request (.code payload.code payload.redirectUrl))).perform w =
        (.ok (.ok response), after) ∧ TokenEndpoint.Tells response after.now m

/-- The operation that a request asks the provider for is refused with an error. -/
inductive Refuses (p : Provider) (r : Http.Request) (w : World) (e : AccessError) : Prop where
  | redeem {payload : CodePayload} (hpath : r.path = "/auth/redeem")
      (hpayload : r.record? CodePayload.ofMembers = some payload)
      (h : ((p.redeem payload.redirectUrl payload.code).perform w).1 = .error (.refused e))
  | refresh {payload : SessionPayload} {own : Session} (hpath : r.path = "/auth/refresh")
      (hpayload : r.record? SessionPayload.ofBody = some payload)
      (hown : payload.toSession = .ok own)
      (h : ((p.refreshIfNeeded (some sessionName)).perform (holding w own)).1 =
        .error (.refused e))
  | validate {payload : SessionPayload} {own : Session} (hpath : r.path = "/auth/validate")
      (hpayload : r.record? SessionPayload.ofBody = some payload)
      (hown : payload.toSession = .ok own)
      (h : ((p.validateSession own).perform (holding w own)).1 = .error (.refused e))
  | authorize {payload : SessionPayload} {own : Session} (hpath : r.path = "/auth/authorize")
      (hpayload : r.record? SessionPayload.ofBody = some payload)
      (hown : payload.toSession = .ok own)
      (h : ((p.validateGroup own).perform (holding w own)).1 = .error (.refused e))
  | userinfo {payload : SessionPayload} {own : Session} (hpath : r.path = "/auth/userinfo")
      (hpayload : r.record? SessionPayload.ofBody = some payload)
      (hown : payload.toSession = .ok own)
      (h : ((p.emailAddress own).perform (holding w own)).1 = .error (.refused e))

/-- Whatever a request is refused with, its details can be told, apart from what the token endpoint
has told about a code. -/
theorem isSound_of_refuses (h : Refuses p r w e) :
    e.IsSound (CodeAnsweredWith p r w) ∧ ∃ message, e.message = .str message := by
  cases h with
  | @redeem payload hpath hpayload h =>
    rw [Provider.redeem_eq_trade] at h
    rcases Provider.refused_of_trade h with
      ⟨cause, reply, after, hsend, hconclude, rfl⟩ | ⟨cause, hcode, rfl⟩
    · obtain ⟨hcode, members, hdetails, hnames, hmembers⟩ :=
        TokenEndpoint.isSound_of_conclude (Action.isPlain_url hsend) hconclude
      have hsound : cause.IsSound (CodeAnsweredWith p r w) := by
        refine ⟨hcode, members, hdetails, hnames, fun m hm hunwritten ↦ ?_⟩
        rcases hmembers m hm hunwritten with hint | ⟨response, rfl, htells⟩
        · exact .inl hint
        · exact .inr ⟨payload, response, after, hpath, hpayload, hsend, htells⟩
      exact ⟨hsound.redeemError, _, rfl⟩
    · exact ⟨AccessError.isSound_of_cause ⟨_, rfl⟩ rfl hcode, _, rfl⟩
  | refresh hpath hpayload hown h =>
    rcases Provider.refused_of_refreshIfNeeded h with ⟨pending, h⟩ | ⟨expected, version, rfl⟩
    · rw [Provider.redeemRefresh_eq_trade] at h
      -- unlike a redemption, a refresh hands on the code of its cause alone
      rcases Provider.refused_of_trade h with
        ⟨cause, reply, after, hsend, hconclude, rfl⟩ | ⟨cause, hcode, rfl⟩
      · have hcode := (TokenEndpoint.isSound_of_conclude (Action.isPlain_url hsend) hconclude).code
        exact ⟨AccessError.isSound_of_cause ⟨_, rfl⟩ rfl hcode, _, rfl⟩
      · exact ⟨AccessError.isSound_of_cause ⟨_, rfl⟩ rfl hcode, _, rfl⟩
    · refine ⟨⟨⟨_, rfl⟩, _, rfl, fun m hm ↦ ?_, fun m hm _ ↦ .inl ?_⟩, _, rfl⟩ <;>
        rcases List.mem_pair.mp hm with rfl | rfl
      · rfl
      · rfl
      · exact ⟨expected, rfl⟩
      · exact ⟨version, rfl⟩
  | validate hpath hpayload hown h => exact absurd h (Provider.validateSession_ne_refused _)
  | authorize hpath hpayload hown h => exact absurd h (Provider.validateGroup_ne_refused _)
  | userinfo hpath hpayload hown h => exact Userinfo.isSound_of_fetchEmail h

/-! ## Answers -/

/-- An operation that is refused is counted, and its error is kept. -/
theorem perform_counted_of_refused {α : Type} {operation : String} {outcome : α → String}
    {x : Action α} (h : (x.perform w).1 = .error (.refused e)) :
    ((s.counted operation outcome x).perform w).1 = .error (.refused e) := by
  rcases hx : x.perform w with ⟨result, after⟩
  rw [hx] at h
  subst h
  rw [counted, Action.perform_bind, Action.perform_tryCatch, hx]
  rfl

/-- An action after a refused one is not performed. -/
theorem perform_bind_of_refused {α β : Type} {x : Action α} {f : α → Action β}
    (h : (x.perform w).1 = .error (.refused e)) :
    ((x >>= f).perform w).1 = .error (.refused e) := by
  rw [Action.perform_bind]
  generalize x.perform w = done at h
  obtain ⟨result, after⟩ := done
  obtain rfl : result = .error (.refused e) := h
  rfl

theorem perform_withSession_of_refused {payload : SessionPayload} {own : Session}
    {x : Session → Action Http.Response} (hpayload : r.record? SessionPayload.ofBody = some payload)
    (hown : payload.toSession = .ok own)
    (h : ((x own).perform (holding w own)).1 = .error (.refused e)) :
    ((withSession r x).perform w).1 = .error (.refused e) := by
  rw [withSession, withPayload_of_record? hpayload, Action.perform_bind,
    Action.perform_liftDefect, hown]
  simp only [mapError_ok, Action.perform_bind, Action.perform_modify, setUser]
  exact h

/-- The endpoint passes on what the operation is refused with. -/
theorem dispatch_of_refuses (hp : s.provider = some p) (hmethod : r.method = "POST")
    (h : Refuses p r w e) : ((s.dispatch r).perform w).1 = .error (.refused e) := by
  have hdispatch (route : Route) (hroute : route ∈ sessionRoutes) (hpost : "POST" ∈ route.methods)
      (hpath : r.path = route.path) : s.dispatch r = s.answerAt route.endpoint r :=
    dispatch_of_sessionRoute hp hroute (hmethod ▸ hpost) hpath
  cases h with
  | redeem hpath hpayload h =>
    rw [hdispatch ⟨"/auth/redeem", ["POST"], .redeem⟩ (by decide) (by decide) hpath]
    simp only [answerAt, hp, redeem, withPayload_of_record? hpayload]
    exact perform_bind_of_refused (perform_counted_of_refused h)
  | refresh hpath hpayload hown h =>
    rw [hdispatch ⟨"/auth/refresh", ["POST"], .refresh⟩ (by decide) (by decide) hpath]
    simp only [answerAt, hp, refresh]
    exact perform_withSession_of_refused hpayload hown
      (perform_bind_of_refused (perform_counted_of_refused h))
  | validate hpath hpayload hown h =>
    rw [hdispatch ⟨"/auth/validate", ["POST"], .validate⟩ (by decide) (by decide) hpath]
    simp only [answerAt, hp, validate]
    exact perform_withSession_of_refused hpayload hown
      (perform_bind_of_refused (perform_counted_of_refused h))
  | authorize hpath hpayload hown h =>
    rw [hdispatch ⟨"/auth/authorize", ["POST"], .authorize⟩ (by decide) (by decide) hpath]
    simp only [answerAt, hp, authorize]
    exact perform_withSession_of_refused hpayload hown
      (perform_bind_of_refused (perform_counted_of_refused h))
  | userinfo hpath hpayload hown h =>
    rw [hdispatch ⟨"/auth/userinfo", ["POST"], .userinfo⟩ (by decide) (by decide) hpath]
    simp only [answerAt, hp, userinfo]
    exact perform_withSession_of_refused hpayload hown
      (perform_bind_of_refused (perform_counted_of_refused h))

/-- The answer that an error is, if its message and its details can be written. -/
theorem perform_answerError {code : String} {message : Text} {details : Members}
    (hcode : e.kind.code = .str code) (hmessage : e.message = .str message)
    (hdetails : e.details = .obj details) :
    ((s.answerError e).perform w).1 =
      if message.isPlain && (Json.obj details).isWritable then
        .ok (.of e.kind.status (.json (.obj
          [("code", .str code), ("message", .str message), ("details", .obj details)])))
      else .error (.defect .unwritable) := by
  have hwritable : (Json.obj [("code", .str code), ("message", .str message),
      ("details", .obj details)]).isWritable =
        (message.isPlain && (Json.obj details).isWritable) := by
    simp only [Json.isWritable, Json.membersAreWritable, Bool.and_true]
    rfl
  rw [answerError, Action.perform_bind, Action.perform_log]
  simp only [AccessError.response_eq hcode hmessage hdetails, reply, hwritable, count,
    Action.count, Action.perform_bind, Action.perform_modify]
  split <;> rfl

/-- **Errors become answers.** A request that the provider refuses is answered with the status of
the error and with its code, its message and its details, provided that the message has no
surrogates and the details can be written. If they cannot, they hold an integer of too many digits,
or what the token endpoint has told about a code. -/
theorem serve_of_refuses (hp : s.provider = some p) (hmethod : r.method = "POST")
    (h : Refuses p r (entered w (requestId r)) e) :
    ∃ (code : String) (message : Text) (details : Members), e.kind.code = .str code ∧
      e.message = .str message ∧ e.details = .obj details ∧
      (if message.isPlain && (Json.obj details).isWritable then
        (s.serve r w).1.status = e.kind.status ∧ (s.serve r w).1.body = .json (.obj
          [("code", .str code), ("message", .str message), ("details", .obj details)])
      else (s.serve r w).1 = .crashed) ∧
      ((Json.obj details).isWritable = false →
        (∃ name n, (name, Json.int n) ∈ details ∧ Nat.pow 10 Text.digitLimit ≤ n.natAbs) ∨
          ∃ m ∈ details, m.2.isWritable = false ∧
            CodeAnsweredWith p r (entered w (requestId r)) m) := by
  obtain ⟨⟨⟨code, hcode⟩, details, hdetails, hnames, hmembers⟩, message, hmessage⟩ :=
    isSound_of_refuses h
  refine ⟨code, message, details, hcode, hmessage, hdetails, ?_, fun hunwritten ↦ ?_⟩
  · have hdispatch := dispatch_of_refuses hp hmethod h
    have hserve := @serve_of_post s r hmethod w
    rcases hperform : (s.dispatch r).perform (entered w (requestId r)) with ⟨result, raw⟩
    rw [hperform] at hdispatch
    obtain rfl : result = .error (.refused e) := hdispatch
    rw [answerOrError, Action.perform_tryCatch, hperform] at hserve
    simp only [perform_answerError hcode hmessage hdetails] at hserve
    split
    · next hwritable =>
      rw [if_pos hwritable] at hserve
      exact hserve
    · next hunwritten =>
      rw [if_neg hunwritten] at hserve
      exact hserve
  · obtain ⟨⟨name, value⟩, hm, hvalue⟩ :=
      (Json.membersAreWritable_eq_false_iff hnames).mp hunwritten
    rcases hmembers _ hm hvalue with ⟨n, hn⟩ | hodd
    · -- an integer can be written unless it has too many digits
      obtain rfl : value = .int n := hn
      refine .inl ⟨name, n, hm, ?_⟩
      rw [Json.isWritable, decide_eq_false_iff_not, Nat.not_lt] at hvalue
      exact hvalue
    · exact .inr ⟨_, hm, hvalue, hodd⟩

/-- An answer that rejects a code with an error. -/
def rejection (error : String) : Response where
  status := 400
  body := Text.utf8 ("\x7b\"error\":" ++ error ++ "\x7d")

def rejectingWorld (error : String) : World where
  now := sampleMoment
  journal := { isSetUp := true, hasOutput := true, threshold := Level.debug.rank }
  collectors := [(.shared sessionsName, { service := sessionsName })]
  deliveries := [{ outcome := .answered (rejection error) }]

/-- The status of what a result is refused with, and whether message and details can be written. -/
def refusal? {α : Type} : Except Failure α → Option (Nat × Bool)
  | .error (.refused e) => some (e.kind.status, e.message.isWritable && e.details.isWritable)
  | _ => none

theorem refuses_of_refusal? {error : String} {status : Nat} {canWrite : Bool}
    (h : refusal? ((sampleProvider.redeem "https://app" "c").perform
      (entered (rejectingWorld error) (requestId codeRequest))).1 = some (status, canWrite)) :
    ∃ e, Refuses sampleProvider codeRequest
        (entered (rejectingWorld error) (requestId codeRequest)) e ∧ e.kind.status = status ∧
      (e.message.isWritable && e.details.isWritable) = canWrite := by
  have hpayload : codeRequest.record? CodePayload.ofMembers = some ⟨"c", "https://app"⟩ := by
    decide +kernel
  generalize hdone : ((sampleProvider.redeem "https://app" "c").perform
    (entered (rejectingWorld error) (requestId codeRequest))).1 = done at h
  match done, h with
  | .error (.refused e), h =>
    obtain ⟨hstatus, hwrite⟩ := Prod.mk.inj (Option.some.inj h)
    exact ⟨e, .redeem rfl hpayload hdone, hstatus, hwrite⟩

/-- A code that is rejected with a text is answered with the status of its error. -/
theorem serve_of_refuses_text :
    ∃ e, Refuses sampleProvider codeRequest
        (entered (rejectingWorld "\"x\"") (requestId codeRequest)) e ∧
      sampleService.provider = some sampleProvider ∧ codeRequest.method = "POST" ∧
      (sampleService.serve codeRequest (rejectingWorld "\"x\"")).1.status = 401 := by
  obtain ⟨e, hrefuses, hstatus, hwritable⟩ :=
    @refuses_of_refusal? "\"x\"" 401 true (by decide +kernel)
  obtain ⟨code, message, details, -, hmessage, hdetails, hanswer, -⟩ :=
    @serve_of_refuses sampleService sampleProvider codeRequest (rejectingWorld "\"x\"") e rfl rfl
      hrefuses
  rw [hmessage, hdetails, Json.isWritable] at hwritable
  rw [if_pos hwritable] at hanswer
  exact ⟨e, hrefuses, rfl, rfl, hanswer.1.trans hstatus⟩

/-- A code that is rejected with a number that is not finite, or with a surrogate, is refused and
not answered so. -/
theorem serve_of_refuses_unwritable :
    (∃ e, Refuses sampleProvider codeRequest
        (entered (rejectingWorld "1e400") (requestId codeRequest)) e ∧ e.kind.status = 401 ∧
          (e.message.isWritable && e.details.isWritable) = false) ∧
      (sampleService.serve codeRequest (rejectingWorld "1e400")).1.status = 500 ∧
      (∃ e, Refuses sampleProvider codeRequest
        (entered (rejectingWorld "\"\\ud800\"") (requestId codeRequest)) e ∧
          e.kind.status = 401 ∧ (e.message.isWritable && e.details.isWritable) = false) ∧
      (sampleService.serve codeRequest (rejectingWorld "\"\\ud800\"")).1.status = 500 :=
  ⟨refuses_of_refusal? (by decide +kernel), by decide +kernel,
    refuses_of_refusal? (by decide +kernel), by decide +kernel⟩

end Service

end SessionGate
