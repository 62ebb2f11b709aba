import Mathlib.Data.List.Forall2
import SessionGate.Proofs.RequestAccounts
import SessionGate.Proofs.TwoRuns

/-!
# Requests do not influence one another

What a request finds of the ones before it is what they have counted, logged and sent, what they
have left in the context of the log, and the cookies that the clients keep. `Service.serve_apart`
says that only the cookies show, and only in what is sent: after any two runs of requests, the same
request at the same time is answered in the same way, logs the same, and sends the same but for
cookies.

## The context

A request that was answered leaves an empty context behind, and one on which the service failed
leaves its identifier there. The user is another matter: what an endpoint says about the user ends
with the endpoint, however that ends, so a world whose context names no user is never followed by
one that does. What is left is the identifier, and the next request begins by replacing it.
-/

namespace SessionGate

open SessionGate.Action

/-! ## Endpoints -/

namespace Service

section Endpoints

variable {R : World → World → Prop} (hR : World.Likeness R)
  (hsend : ∀ request, Alike R (send request) (send request)) (s : Service) (p : Provider)
  (r : Http.Request)

theorem alike_reply (status : Nat) (v : Json) : Alike R (reply status v) (reply status v) := by
  rw [reply]
  split
  · exact alike_pure _
  · exact alike_escape _

theorem alike_withPayload {α : Type} (read : Members → Checked α) {x : α → Action Http.Response}
    (hx : ∀ a, Alike R (x a) (x a)) : Alike R (withPayload r read x) (withPayload r read x) := by
  unfold withPayload
  split
  · exact alike_pure _
  · exact alike_pure _
  · split
    · exact hx _
    · split
      · exact alike_pure _
      · exact alike_escape _

theorem alike_sessionMember (session : Session) :
    Alike R (sessionMember session) (sessionMember session) :=
  (alike_liftDefect _).bind fun _ ↦ alike_pure _

include hR

theorem alike_counted {α : Type} (operation : String) (outcome : α → String) {x : Action α}
    (hx : Alike R x x) :
    Alike R (s.counted operation outcome x) (s.counted operation outcome x) := by
  refine (hx.tryCatch fun failure ↦ ?_).bind fun a ↦
    (alike_count hR _ _).bind fun _ ↦ alike_pure a
  cases failure with
  | refused error => exact (alike_count hR _ _).bind fun _ ↦ alike_refuse error
  | defect defect => exact alike_escape defect

theorem alike_setUser (email : Json) : Alike R (setUser email) (setUser email) :=
  fun _ _ h ↦ ⟨.ok rfl, hR.name h email⟩

theorem alike_withSession {x : Session → Action Http.Response}
    (hx : ∀ session, Alike R (x session) (x session)) :
    Alike R (withSession r x) (withSession r x) := by
  refine alike_withPayload r _ fun payload ↦ (alike_liftDefect _).bind fun session ↦ ?_
  have hhold : Alike R (modify fun w ↦ { w with sessions := [(sessionName, session)] })
      (modify fun w ↦ { w with sessions := [(sessionName, session)] }) :=
    fun _ _ h ↦ ⟨.ok rfl, hR.keep h _⟩
  exact hhold.bind fun _ ↦ (alike_setUser hR session.email).bind fun _ ↦ hx session

theorem alike_health : Alike R s.health s.health := by
  refine Alike.get fun w v h ↦ ?_
  cases s.dependencyFault with
  | some error =>
    exact (alike_log hR _).bind fun _ ↦ (alike_count hR _ _).bind fun _ ↦ alike_reply _ _
  | none =>
    rw [hR.now h, hR.policy h]
    exact (alike_count hR _ _).bind fun _ ↦ alike_reply _ _

include hsend

theorem alike_redeem : Alike R (s.redeem p r) (s.redeem p r) := by
  refine alike_withPayload r _ fun payload ↦ ?_
  have hredeem := @Provider.alike_redeem R hR p p.data.clientSecret p.data.clientSecret
    payload.redirectUrl payload.code payload.code (hsend _)
  refine (alike_counted hR s _ _ hredeem).bind fun session ↦ ?_
  refine (alike_setUser hR session.email).bind fun _ ↦ (alike_log hR _).bind fun _ ↦ ?_
  exact (alike_sessionMember session).bind fun _ ↦ alike_reply _ _

theorem alike_refresh : Alike R (s.refresh p r) (s.refresh p r) := by
  refine alike_withSession hR r fun _ ↦ ?_
  have hrefresh := @Provider.alike_refreshIfNeeded R hR p p.data.clientSecret p.data.clientSecret
    (fun _ ↦ hsend _) (some sessionName)
  refine (alike_counted hR s _ _ hrefresh).bind fun refreshed ↦ ?_
  exact (alike_session hR _).bind fun session ↦
    (alike_sessionMember session).bind fun _ ↦ alike_reply _ _

omit hsend in
theorem alike_validate : Alike R (s.validate p r) (s.validate p r) := by
  refine alike_withSession hR r fun session ↦ ?_
  have hvalidate := @Provider.alike_validateSession R hR p p.data.clientSecret p.data.clientSecret
    session
  exact (alike_counted hR s _ _ hvalidate).bind fun _ ↦ alike_reply _ _

omit hsend in
theorem alike_authorize : Alike R (s.authorize p r) (s.authorize p r) := by
  refine alike_withSession hR r fun session ↦ ?_
  have hvalidate := @Provider.alike_validateGroup R hR p p.data.clientSecret p.data.clientSecret
    session
  exact (alike_counted hR s _ _ hvalidate).bind fun _ ↦ alike_reply _ _

theorem alike_userinfo : Alike R (s.userinfo p r) (s.userinfo p r) := by
  refine alike_withSession hR r fun session ↦ ?_
  have hemail := @Provider.alike_emailAddress R hR p p.data.clientSecret p.data.clientSecret
    session (hsend _)
  exact (alike_counted hR s _ _ hemail).bind fun _ ↦ alike_reply _ _

/-! ## Answers -/

variable {r}

/-- All answers are alike, except those that say what has been counted. -/
theorem alike_dispatch
    (hsamples : s.destination r.method r.path = .endpoint .metrics → Alike R metrics metrics) :
    Alike R (s.dispatch r) (s.dispatch r) := by
  unfold dispatch
  cases hdestination : s.destination r.method r.path with
  | wrongMethod methods => exact alike_pure _
  | elsewhere path => exact alike_pure _
  | unknown => exact alike_pure _
  | endpoint e =>
    unfold answerAt
    dsimp only
    split
    · exact alike_health hR s
    · exact hsamples hdestination
    · exact alike_pure _
    · exact alike_pure _
    · exact alike_reply _ _
    · exact alike_redeem hR hsend s _ r
    · exact alike_refresh hR hsend s _ r
    · exact alike_validate hR s _ r
    · exact alike_authorize hR s _ r
    · exact alike_userinfo hR hsend s _ r

theorem alike_answer
    (hsamples : s.destination r.method r.path = .endpoint .metrics → Alike R metrics metrics) :
    Alike R (s.answer r) (s.answer r) := by
  unfold answer
  split
  · exact alike_pure _
  · refine Alike.bind ?_ fun _ ↦ alike_pure _
    refine (alike_dispatch hR hsend s hsamples).tryCatch fun failure ↦ ?_
    cases failure with
    | defect defect => exact alike_escape defect
    | refused error =>
      refine (alike_log hR _).bind fun _ ↦ (alike_count hR _ _).bind fun _ ↦ ?_
      cases error.response with
      | valid body => exact alike_reply _ _
      | invalid faults => exact alike_escape _

end Endpoints

end Service

/-! ## What requests leave as it is -/

namespace Journal

variable (j : Journal)

theorem write_kept (e : LogEntry) :
    (j.write e).hasOutput = j.hasOutput ∧ (j.write e).threshold = j.threshold ∧
      (j.write e).context = j.context := by
  rw [write]
  split <;> exact ⟨rfl, rfl, rfl⟩

theorem setUser_kept (user : Json) :
    (j.setUser user).hasOutput = j.hasOutput ∧ (j.setUser user).threshold = j.threshold ∧
      (j.setUser user).lines = j.lines ∧
      (j.setUser user).context.requestId = j.context.requestId := by
  rw [setUser]
  split <;> exact ⟨rfl, rfl, rfl, rfl⟩

end Journal

/-- The answer, if there is one, sets no cookies. -/
def Delivery.SetsNoCookies (d : Delivery) : Prop :=
  ∀ response, d.outcome = .answered response → response.cookies = []

theorem Delivery.SetsNoCookies.cookies_eq_nil {d : Delivery} (h : d.SetsNoCookies) (r : Request)
    (receivedAt : Moment) : r.cookies receivedAt (.ok d.outcome) = [] := by
  cases hd : d.outcome with
  | answered response => rw [Request.cookies, h response hd, List.isEmpty_nil, if_pos rfl]
  | failed fault => rfl
  | invalidUrl => rfl

/-- Two requests that differ at most in their cookies. -/
def Request.SameButCookie (r r' : Request) : Prop :=
  r' = { r with cookie := r'.cookie }

namespace World

/-- What no operation changes that a request asks for. -/
structure Endures (b w : World) : Prop where
  policy : w.policy = b.policy
  isClosed : w.isClosed = b.isClosed
  cookieRule : w.cookieRule = b.cookieRule
  hasOutput : w.journal.hasOutput = b.journal.hasOutput
  threshold : w.journal.threshold = b.journal.threshold

/-- What has become of a world while deliveries were used up: if none of them sets cookies, the
clients have the ones of before. -/
structure Spends (b w : World) : Prop extends b.Endures w where
  cookies : (∀ d ∈ b.deliveries, d.SetsNoCookies) →
    w.cookies = b.cookies ∧ ∀ d ∈ w.deliveries, d.SetsNoCookies

theorem likeness_spends (b : World) : Likeness fun w v ↦ w = v ∧ b.Spends v where
  now h := congrArg World.now h.1
  sessions h := congrArg World.sessions h.1
  policy h := congrArg World.policy h.1
  write := by
    rintro w _ ⟨rfl, h⟩ entry
    obtain ⟨houtput, hthreshold, -⟩ := w.journal.write_kept entry
    exact ⟨rfl, { h with
      hasOutput := houtput.trans h.hasOutput, threshold := hthreshold.trans h.threshold }⟩
  keep := by
    rintro w _ ⟨rfl, h⟩ ss
    exact ⟨rfl, { h with }⟩
  count := by
    rintro w _ ⟨rfl, h⟩ key f
    exact ⟨rfl, { h with }⟩
  name := by
    rintro w _ ⟨rfl, h⟩ user
    obtain ⟨houtput, hthreshold, -⟩ := w.journal.setUser_kept user
    exact ⟨rfl, { h with
      hasOutput := houtput.trans h.hasOutput, threshold := hthreshold.trans h.threshold }⟩

theorem spends_send {b w : World} (h : b.Spends w) (r : Request) : b.Spends (w.send r).2 := by
  rw [send]
  cases hd : w.deliveries with
  | nil =>
    exact { h with cookies := fun hbare ↦ ⟨(h.cookies hbare).1, List.forall_mem_nil _⟩ }
  | cons d rest =>
    have hcookies (hbare : ∀ d ∈ b.deliveries, d.SetsNoCookies) :
        w.cookies = b.cookies ∧ d.SetsNoCookies ∧ ∀ d ∈ rest, d.SetsNoCookies := by
      obtain ⟨hkept, hnone⟩ := h.cookies hbare
      rw [hd] at hnone
      exact ⟨hkept, List.forall_mem_cons.mp hnone⟩
    simp only [pass]
    rcases w.sessions.commitAll d.commits with ⟨defect | _, sessions⟩
    · refine { h with cookies := fun hbare ↦ ?_ }
      obtain ⟨hkept, -, hrest⟩ := hcookies hbare
      exact ⟨(List.append_nil _).trans hkept, hrest⟩
    · refine { h with cookies := fun hbare ↦ ?_ }
      obtain ⟨hkept, hd, hrest⟩ := hcookies hbare
      refine ⟨?_, hrest⟩
      simp only [hd.cookies_eq_nil, List.append_nil, hkept]

theorem spends_perform_send (b : World) (request : Request) :
    Alike (fun w v ↦ w = v ∧ b.Spends v) (Action.send request) (Action.send request) := by
  rintro w _ ⟨rfl, h⟩
  refine ⟨agree_refl _, rfl, ?_⟩
  rw [perform_send]
  cases request.destination with
  | error defect => exact h
  | ok url =>
    by_cases hclosed : w.isClosed = true
    · simp only [if_pos hclosed]
      exact h
    · simp only [if_neg hclosed]
      exact spends_send h _

end World

namespace Service

variable (s : Service)

/-- A request leaves nothing behind but what it has counted, logged and sent, the cookies it was
given, and at most its own identifier in the context. -/
theorem spends_serve (r : Http.Request) {w : World} (huser : w.journal.context.user = .null) :
    w.Spends (s.serve r w).2 ∧ (s.serve r w).2.sessions = w.sessions ∧
      (s.serve r w).2.journal.context.user = .null := by
  have hstart : w.Spends (entered w (requestId r)) :=
    ⟨⟨rfl, rfl, rfl, rfl, rfl⟩, fun hbare ↦ ⟨rfl, hbare⟩⟩
  have hmetrics : Alike (fun u v ↦ u = v ∧ w.Spends v) metrics metrics :=
    Alike.get fun _ v h ↦ h.1 ▸ alike_pure _
  obtain ⟨-, -, hraw⟩ := alike_answer w.likeness_spends w.spends_perform_send s
    (fun _ ↦ hmetrics) _ _ ⟨rfl, hstart⟩
  rcases hperform : (s.answer r).perform (entered w (requestId r)) with ⟨failure | response, raw⟩
  · rw [hperform] at hraw
    rw [s.serve_of_error hperform]
    exact ⟨{ hraw with }, rfl, huser⟩
  · rw [hperform] at hraw
    rw [s.serve_of_ok hperform]
    obtain ⟨houtput, hthreshold, -⟩ := (left (entered w (requestId r)) raw).journal.write_kept
      (s.requestEntry r response.status)
    exact ⟨{ hraw with
      hasOutput := houtput.trans hraw.hasOutput
      threshold := hthreshold.trans hraw.threshold }, rfl, rfl⟩

/-- No answer to the requests of a service sets cookies. -/
def Visit.SetsNoCookies (v : Visit) : Prop :=
  ∀ d ∈ v.deliveries, d.SetsNoCookies

theorem endures_serveAll (visits : List Visit) {w : World}
    (huser : w.journal.context.user = .null) :
    w.Endures (s.serveAll visits w).2 ∧ (s.serveAll visits w).2.sessions = w.sessions ∧
      (s.serveAll visits w).2.journal.context.user = .null ∧
      ((∀ v ∈ visits, v.SetsNoCookies) → (s.serveAll visits w).2.cookies = w.cookies) := by
  induction visits generalizing w with
  | nil => exact ⟨⟨rfl, rfl, rfl, rfl, rfl⟩, rfl, huser, fun _ ↦ rfl⟩
  | cons v visits ih =>
    -- the first visit leaves a context that names no user, and that is all the others need
    obtain ⟨hfirst, hsessions, hnobody⟩ := @spends_serve s v.request (v.world w) huser
    obtain ⟨hrest, hsessions', huser', hcookies⟩ := ih hnobody
    refine ⟨⟨hrest.policy.trans hfirst.policy, hrest.isClosed.trans hfirst.isClosed,
      hrest.cookieRule.trans hfirst.cookieRule, hrest.hasOutput.trans hfirst.hasOutput,
      hrest.threshold.trans hfirst.threshold⟩, hsessions'.trans hsessions, huser', fun hbare ↦ ?_⟩
    obtain ⟨hv, hvisits⟩ := List.forall_mem_cons.mp hbare
    exact (hcookies hvisits).trans (hfirst.cookies hv).1

end Service

/-! ## Lines of a request -/

/-- A line names the request of its context. -/
theorem LogEntry.get?_requestId_line {context : LogContext} {id : String}
    (h : context.requestId = .str id) (hid : id ≠ "") (e : LogEntry) :
    (e.line context).get? "request_id" = some (.str id) := by
  have hset : context.requestId.isSet = true := by
    rw [h, Json.isSet]
    exact bne_iff_ne.mpr fun hempty ↦ hid (Text.plain.inj hempty)
  have hadded (event : Members) :
      (addContext context event).get? "request_id" = some (.str id) := by
    simp only [addContext, if_pos hset]
    split
    · rw [Members.get?_insert, if_neg (by decide), Members.get?_insert, if_pos rfl, h]
    · rw [Members.get?_insert, if_pos rfl, h]
  rw [line]
  simp only [timings, List.foldl_cons, List.foldl_nil]
  rw [Members.get?_erase, if_neg (by decide), Members.get?_erase, if_neg (by decide), hadded]

/-- Two journals that have come from `b` and `c` by writing the same lines, all of them with the
identifier of a request, and that are about to write the same. -/
structure Journal.Beside (b c : Journal) (id : String) (j k : Journal) : Prop where
  hasOutput : j.hasOutput = k.hasOutput
  threshold : j.threshold = k.threshold
  context : j.context = k.context
  requestId : j.context.requestId = .str id
  lines : ∃ more, j.lines = b.lines ++ more ∧ k.lines = c.lines ++ more ∧
    ∀ line ∈ more, line.get? "request_id" = some (.str id)

namespace Journal

variable {b c j k : Journal} {id : String}

theorem Beside.write (hid : id ≠ "") (h : Beside b c id j k) (e : LogEntry) :
    Beside b c id (j.write e) (k.write e) := by
  obtain ⟨houtput, hthreshold, hcontext⟩ := j.write_kept e
  obtain ⟨houtput', hthreshold', hcontext'⟩ := k.write_kept e
  refine ⟨?_, ?_, ?_, ?_, ?_⟩
  · rw [houtput, houtput', h.hasOutput]
  · rw [hthreshold, hthreshold', h.threshold]
  · rw [hcontext, hcontext', h.context]
  · rw [hcontext, h.requestId]
  · obtain ⟨more, hj, hk, hmore⟩ := h.lines
    rw [Journal.write, Journal.write, Journal.admits, Journal.admits, h.hasOutput, h.threshold]
    split
    · refine ⟨more ++ [e.line j.context], ?_, ?_, fun line hline ↦ ?_⟩
      · rw [hj, List.append_assoc]
      · rw [hk, List.append_assoc, h.context]
      · rcases List.mem_append.mp hline with hline | hline
        · exact hmore line hline
        · rw [List.mem_singleton.mp hline]
          exact LogEntry.get?_requestId_line h.requestId hid e
    · exact ⟨more, hj, hk, hmore⟩

theorem Beside.setUser (h : Beside b c id j k) (user : Json) :
    Beside b c id (j.setUser user) (k.setUser user) := by
  rw [Journal.setUser, Journal.setUser]
  split
  · exact ⟨h.hasOutput, h.threshold, by rw [h.context], h.requestId, h.lines⟩
  · exact h

/-- Both are given the context of a request. -/
theorem Beside.within (h : Beside b c id j k) {context : LogContext}
    (hcontext : context.requestId = .str id) :
    Beside b c id { j with context } { k with context } :=
  ⟨h.hasOutput, h.threshold, rfl, hcontext, h.lines⟩

end Journal

/-! ## Two worlds -/

namespace World

/-- Two worlds that have come from `b` and `c` by sending and logging the same, and that a request
cannot tell apart. What is sent may differ in cookies if those of `b` and `c` do. -/
structure Beside (b c : World) (id : String) (w v : World) : Prop where
  now : w.now = v.now
  deliveries : w.deliveries = v.deliveries
  sessions : w.sessions = v.sessions
  policy : w.policy = v.policy
  isClosed : w.isClosed = v.isClosed
  cookieRule : w.cookieRule = v.cookieRule
  cookies : b.cookies = c.cookies → w.cookies = v.cookies
  journal : Journal.Beside b.journal c.journal id w.journal v.journal
  sent : ∃ more more', w.sent = b.sent ++ more ∧ v.sent = c.sent ++ more' ∧
    List.Forall₂ Request.SameButCookie more more' ∧ (b.cookies = c.cookies → more = more')

variable {b c w v : World} {id : String}

theorem likeness_beside (b c : World) (hid : id ≠ "") : Likeness (Beside b c id) where
  now h := h.now
  sessions h := h.sessions
  policy h := h.policy
  write h entry :=
    { h with journal := h.journal.write hid entry }
  keep h _ := { h with sessions := rfl }
  count h _ _ := { h with }
  name h user := { h with journal := h.journal.setUser user }

theorem beside_pass {d : Delivery} (h : Beside b c id w v) :
    (w.pass d).1 = (v.pass d).1 ∧ Beside b c id (w.pass d).2 (v.pass d).2 := by
  rw [pass, pass, h.sessions]
  rcases v.sessions.commitAll d.commits with ⟨_ | _, sessions⟩
  · exact ⟨rfl, { h with sessions := rfl }⟩
  · exact ⟨rfl, { h with sessions := rfl, now := congrArg d.advanceTo.getD h.now }⟩

/-- The next request goes out from both, with the same cookies if they began with the same. -/
theorem Beside.sent_dress (h : Beside b c id w v) (r : Request) :
    ∃ more more', w.sent ++ [w.dress r] = b.sent ++ more ∧ v.sent ++ [v.dress r] = c.sent ++ more' ∧
      List.Forall₂ Request.SameButCookie more more' ∧ (b.cookies = c.cookies → more = more') := by
  obtain ⟨more, more', hw, hv, hsame, heq⟩ := h.sent
  refine ⟨more ++ [w.dress r], more' ++ [v.dress r], ?_, ?_, ?_, fun hcookies ↦ ?_⟩
  · rw [hw, List.append_assoc]
  · rw [hv, List.append_assoc]
  · exact List.rel_append hsame (.cons rfl .nil)
  · rw [heq hcookies, dress, dress, h.cookies hcookies, h.cookieRule, h.now]

theorem beside_send (h : Beside b c id w v) (r : Request) :
    (w.send r).1 = (v.send r).1 ∧ Beside b c id (w.send r).2 (v.send r).2 := by
  have hsent := h.sent_dress r
  rw [send, send]
  simp only [h.deliveries]
  cases v.deliveries with
  | nil => exact ⟨rfl, { h with sent := hsent, deliveries := rfl }⟩
  | cons d rest =>
    have hnext : Beside b c id { w with sent := w.sent ++ [w.dress r], deliveries := rest }
        { v with sent := v.sent ++ [v.dress r], deliveries := rest } :=
      { h with sent := hsent, deliveries := rfl }
    obtain ⟨houtcome, hafter⟩ := @beside_pass _ _ _ _ _ d hnext
    refine ⟨houtcome, { hafter with cookies := fun hcookies ↦ ?_ }⟩
    simp only [hafter.cookies hcookies, hafter.now, houtcome]

theorem beside_perform_send (b c : World) (id : String) (request : Request) :
    Alike (Beside b c id) (Action.send request) (Action.send request) := by
  intro w v h
  rw [perform_send, perform_send, h.isClosed]
  cases request.destination with
  | error defect => exact ⟨agree_refl _, h⟩
  | ok url =>
    obtain ⟨houtcome, hworld⟩ := beside_send h (request.sentTo url)
    by_cases hclosed : v.isClosed = true
    · simp only [if_pos hclosed]
      exact ⟨agree_refl _, h⟩
    · simp only [if_neg hclosed, houtcome]
      exact ⟨agree_refl _, hworld⟩

/-- Two worlds that differ only in what is past: in what was counted, logged and sent, in the
cookies that came with answers, and in the request that the context names. -/
structure SamePresent (w v : World) : Prop where
  now : w.now = v.now
  deliveries : w.deliveries = v.deliveries
  sessions : w.sessions = v.sessions
  policy : w.policy = v.policy
  isClosed : w.isClosed = v.isClosed
  cookieRule : w.cookieRule = v.cookieRule
  hasOutput : w.journal.hasOutput = v.journal.hasOutput
  threshold : w.journal.threshold = v.journal.threshold
  user : w.journal.context.user = v.journal.context.user

/-- With a request in their contexts they are beside each other. -/
theorem SamePresent.entered (h : SamePresent w v) (id : String) :
    Beside w v id (Service.entered w id) (Service.entered v id) where
  now := h.now
  deliveries := h.deliveries
  sessions := h.sessions
  policy := h.policy
  isClosed := h.isClosed
  cookieRule := h.cookieRule
  cookies hcookies := hcookies
  journal := by
    refine ⟨h.hasOutput, h.threshold, ?_, rfl, ⟨[], ?_, ?_, fun _ h ↦ (nomatch h)⟩⟩
    · simp only [Service.entered, Journal.setRequest, h.user]
    · exact (List.append_nil _).symm
    · exact (List.append_nil _).symm
  sent := ⟨[], [], (List.append_nil _).symm, (List.append_nil _).symm, .nil, fun _ ↦ rfl⟩

end World

namespace Service

variable (s : Service) {r : Http.Request} {id : String}

/-- A request does the same in worlds that differ only in what is past. -/
theorem serve_of_samePresent {w v : World} (h : w.SamePresent v)
    (hid : r.header? requestIdHeader = some id) (hset : id ≠ "")
    (hmetrics : s.destination r.method r.path ≠ .endpoint .metrics) :
    (s.serve r w).1 = (s.serve r v).1 ∧
      (∃ sent sent', (s.serve r w).2.sent = w.sent ++ sent ∧
        (s.serve r v).2.sent = v.sent ++ sent' ∧ List.Forall₂ Request.SameButCookie sent sent' ∧
          (w.cookies = v.cookies → sent = sent')) ∧
      ∃ lines, (s.serve r w).2.journal.lines = w.journal.lines ++ lines ∧
        (s.serve r v).2.journal.lines = v.journal.lines ++ lines ∧
        ∀ line ∈ lines, line.get? "request_id" = some (.str id) := by
  have hrequest : requestId r = id := by rw [requestId, hid, Option.getD_some]
  have hstart : World.Beside w v id (entered w (requestId r)) (entered v (requestId r)) := by
    rw [hrequest]
    exact h.entered id
  obtain ⟨hresult, hraw⟩ := alike_answer (World.likeness_beside w v hset)
    (World.beside_perform_send w v id) s (fun h ↦ absurd h hmetrics) _ _ hstart
  -- whatever has become of the context, both get back the one they had at the beginning
  have hjournal := hraw.journal.within hstart.journal.requestId
  rcases hperform : (s.answer r).perform (entered w (requestId r)) with ⟨failure | response, raw⟩
  · rw [hperform] at hresult hraw hjournal
    rcases hperform' : (s.answer r).perform (entered v (requestId r)) with ⟨result', raw'⟩
    rw [hperform'] at hresult hraw hjournal
    cases hresult.eq
    rw [s.serve_of_error hperform, s.serve_of_error hperform']
    exact ⟨rfl, hraw.sent, hjournal.lines⟩
  · rw [hperform] at hresult hraw hjournal
    rcases hperform' : (s.answer r).perform (entered v (requestId r)) with ⟨result', raw'⟩
    rw [hperform'] at hresult hraw hjournal
    cases hresult.eq
    rw [s.serve_of_ok hperform, s.serve_of_ok hperform']
    refine ⟨rfl, hraw.sent, ?_⟩
    have hwritten := hjournal.write hset (s.requestEntry r response.status)
    have hcontext : (entered v (requestId r)).journal.context =
        (entered w (requestId r)).journal.context := hstart.journal.context.symm
    simp only [recorded, left, hcontext, Journal.clear]
    exact hwritten.lines

/-- Two runs of requests from one world leave worlds that differ only in what is past. -/
theorem samePresent_serveAll {w : World} (huser : w.journal.context.user = .null)
    (before before' : List Visit) (r : Http.Request) (now : Moment) (deliveries : List Delivery) :
    let found := Visit.world ⟨r, some now, deliveries⟩ (s.serveAll before w).2
    let found' := Visit.world ⟨r, some now, deliveries⟩ (s.serveAll before' w).2
    found.SamePresent found' ∧
      ((∀ v ∈ before ++ before', v.SetsNoCookies) → found.cookies = found'.cookies) := by
  obtain ⟨hkept, hsessions, hnobody, hcookies⟩ := s.endures_serveAll before huser
  obtain ⟨hkept', hsessions', hnobody', hcookies'⟩ := s.endures_serveAll before' huser
  refine ⟨⟨rfl, rfl, hsessions.trans hsessions'.symm, hkept.policy.trans hkept'.policy.symm,
    hkept.isClosed.trans hkept'.isClosed.symm, hkept.cookieRule.trans hkept'.cookieRule.symm,
    hkept.hasOutput.trans hkept'.hasOutput.symm, hkept.threshold.trans hkept'.threshold.symm,
    hnobody.trans hnobody'.symm⟩, fun hbare ↦ ?_⟩
  obtain ⟨hbefore, hbefore'⟩ := List.forall_mem_append.mp hbare
  exact (hcookies hbefore).trans (hcookies' hbefore').symm

/-- **Requests do not influence one another but for cookies.** After any two runs of requests, a
request that names itself is answered in the same way and logs the same, under its own name. What it
sends differs at most in the cookies that its clients were given before, and not at all if no answer
has set any. -/
theorem serve_apart {w : World} (huser : w.journal.context.user = .null)
    (before before' : List Visit) (hid : r.header? requestIdHeader = some id) (hset : id ≠ "")
    (hmetrics : s.destination r.method r.path ≠ .endpoint .metrics) (now : Moment)
    (deliveries : List Delivery) :
    let found := Visit.world ⟨r, some now, deliveries⟩ (s.serveAll before w).2
    let found' := Visit.world ⟨r, some now, deliveries⟩ (s.serveAll before' w).2
    (s.serve r found).1 = (s.serve r found').1 ∧
      (∃ sent sent', (s.serve r found).2.sent = found.sent ++ sent ∧
        (s.serve r found').2.sent = found'.sent ++ sent' ∧
          List.Forall₂ Request.SameButCookie sent sent' ∧
          ((∀ v ∈ before ++ before', v.SetsNoCookies) → sent = sent')) ∧
      ∃ lines, (s.serve r found).2.journal.lines = found.journal.lines ++ lines ∧
        (s.serve r found').2.journal.lines = found'.journal.lines ++ lines ∧
        ∀ line ∈ lines, line.get? "request_id" = some (.str id) := by
  intro found found'
  obtain ⟨hpresent, hcookies⟩ := s.samePresent_serveAll huser before before' r now deliveries
  obtain ⟨hanswer, ⟨sent, sent', hsent, hsent', hsame, heq⟩, hlines⟩ :=
    s.serve_of_samePresent hpresent hid hset hmetrics
  exact ⟨hanswer, ⟨sent, sent', hsent, hsent', hsame, fun hbare ↦ heq (hcookies hbare)⟩, hlines⟩

/-- A request under another name than the one before. -/
def laterRequest : Http.Request :=
  { codeRequest with headers := [("content-type", "application/json"), (requestIdHeader, "r2")] }

/-- Sends back the first cookie of what came last from the same URL, as clients do with a cookie
that has no attributes. -/
def returningRule : CookieRule where
  header? kept _ url := (kept.filter fun cookies ↦ cookies.url = url).getLast?.bind (·.texts.head?)
  header?_nil _ _ := rfl

/-- A code is rejected, and the answer sets a cookie. -/
def cookieVisit : Visit where
  request := codeRequest
  deliveries := [{ outcome := .answered { status := 400, body := [], cookies := ["sid=1"] } }]

-- the cookie that came with the answer to one request goes out with the next one
example :
    let start : World := { endlessWorld with cookieRule := returningRule }
    let later : Visit := ⟨laterRequest, some sampleMoment, []⟩
    let found := later.world (sampleService.serveAll [cookieVisit] start).2
    let found' := later.world (sampleService.serveAll [] start).2
    (sampleService.serve laterRequest found).2.sent.map (·.cookie) = [none, some "sid=1"] ∧
      (sampleService.serve laterRequest found').2.sent.map (·.cookie) = [none] := by
  decide +kernel

/-! ## Services that are set up -/

theorem context_configure (j : Journal) (level : String) :
    (j.configure level).1.context = j.context := by
  rw [Journal.configure]
  dsimp only
  split
  · rfl
  · split
    · rfl
    · split <;> rfl

/-- Setting a service up names nobody in the context of the log. -/
theorem context_setUp (place : Surroundings) (name : String) (port : Json) (w : World) :
    ((setUp place name port).perform w).2.journal.context = w.journal.context := by
  rw [setUp, perform_bind, perform_liftDefect]
  cases (Settings.read place.environment place.settingsFile (.str name) port).toExcept.mapError
      Defect.ofFaults with
  | error defect => rfl
  | ok settings =>
    have hkept := context_configure w.journal settings.logLevel
    simp only [mapError_ok, perform_bind, perform_get, perform_set, perform_liftDefect]
    cases (w.collectors.obtain name none).1 with
    | error defect => rfl
    | ok key =>
      simp only [mapError_ok]
      cases (w.journal.configure settings.logLevel).2 with
      | some defect => exact hkept
      | none => exact hkept

theorem context_setUpWith (place : Surroundings) (p : Provider) (w : World) :
    ((setUpWith place p).perform w).2.journal.context = w.journal.context := by
  have hkept := context_setUp place sessionsName (.int sessionsPort) w
  rw [setUpWith, perform_bind]
  generalize (setUp place sessionsName (.int sessionsPort)).perform w = done at hkept ⊢
  obtain ⟨failure | s, after⟩ := done
  · exact hkept
  · exact hkept

theorem context_setUpSessions (place : Surroundings) (w : World) :
    ((setUpSessions place).perform w).2.journal.context = w.journal.context := by
  have hkept := context_setUp place sessionsName (.int sessionsPort) w
  rw [setUpSessions, perform_bind]
  generalize (setUp place sessionsName (.int sessionsPort)).perform w = done at hkept ⊢
  obtain ⟨failure | s, after⟩ := done
  · exact hkept
  · have hkeys : ((s.loadKeys place).perform after).2.journal.context = w.journal.context := by
      rw [loadKeys]
      split
      · exact (after.journal.write_kept _).2.2.trans hkept
      · exact (after.journal.write_kept _).2.2.trans hkept
      · rw [perform_liftDefect]
        exact hkept
    simp only [perform_bind]
    generalize (s.loadKeys place).perform after = loaded at hkeys ⊢
    obtain ⟨failure | keys, u⟩ := loaded
    · exact hkeys
    · exact hkeys

end Service

end SessionGate
