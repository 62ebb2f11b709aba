import SessionGate.Proofs.JsonTexts
import SessionGate.Proofs.Trade

/-!
# What becomes of an exchange

An exchange posts one request, and all that is left then is to read the reply. A bundle is made of
the answers that are in order and whose lifetime lasts, and of no others:
`TokenEndpoint.exchange_accepts`.

## Declared failures

A reply that brings no bundle should be refused, and the error should tell whose fault it is: that
of the network where there is no answer, and that of the endpoint where there is one.
`TokenEndpoint.Declares` says so, and `TokenEndpoint.exchange_declares` that it fails for the
answers that `TokenEndpoint.BreaksDown` names, and for no others. A lifetime that is no number is
refused; one that is too large for a number is not.
-/

namespace SessionGate

/-! ## Replies -/

/-- A request goes out and comes back with a reply, in the world there is then. -/
def World.Receives (w : World) (r : Request) (reply : Except NetworkFault Response)
    (arrived : World) : Prop :=
  ∃ url outcome, r.destination = .ok url ∧ w.isClosed = false ∧
    w.send (r.sentTo url) = (.ok outcome, arrived) ∧ outcome.reply url = .ok reply

namespace World.Receives

variable {w arrived : World} {r : Request} {reply : Except NetworkFault Response}

theorem perform_send (h : w.Receives r reply arrived) :
    (Action.send r).perform w = (.ok reply, arrived) := by
  obtain ⟨url, outcome, hurl, hopen, hsend, hreply⟩ := h
  rw [Action.perform_send, hurl]
  simp only [hopen, hsend, Except.bind, hreply, mapError_ok, Bool.false_eq_true, if_false]

/-- One request was sent, and it is the one that was made but for its URL and its cookies. -/
theorem sent (h : w.Receives r reply arrived) :
    ∃ sent body, arrived.sent = w.sent ++ [sent] ∧ sent.method = r.method ∧
      sent.content? = some body ∧ r.content? = some body := by
  obtain ⟨url, outcome, hurl, -, hsend, -⟩ := h
  obtain ⟨-, body, -, -, hbody, -⟩ := Request.destination_eq_ok_iff.mp hurl
  have hsent := w.send_sent (r.sentTo url)
  rw [hsend] at hsent
  exact ⟨w.dress (r.sentTo url), body, hsent, rfl, hbody, hbody⟩

theorem perform_exchange {e : TokenEndpoint} {grant : Grant}
    (h : w.Receives (e.request grant) reply arrived) :
    (e.exchange grant).perform w =
      (e.conclude arrived.now reply,
        arrived.written (TokenEndpoint.report grant arrived.now reply)) := by
  rw [TokenEndpoint.perform_exchange, h.perform_send]

end World.Receives

namespace TokenEndpoint

variable {w arrived : World} {response : Response} {reply : Except NetworkFault Response}

/-! ## Acceptance -/

/-- **Which answers are accepted.** One request is posted, and a bundle comes back exactly if the
answer is in order and its lifetime lasts. The bundle holds what the payload says. -/
theorem exchange_accepts (e : TokenEndpoint) (grant : Grant)
    (h : w.Receives (e.request grant) (.ok response) arrived) :
    (∃ r body, ((e.exchange grant).perform w).2.sent = w.sent ++ [r] ∧ r.method = "POST" ∧
        r.content? = some body ∧ Form.encode? (e.pairs grant) = some body) ∧
      ((∃ bundle, ((e.exchange grant).perform w).1 = .ok bundle) ↔
        ∃ ms, response.Grants ms ∧ TokenBundle.Lasts arrived.now (ms.get "expires_in")) ∧
      ∀ bundle, ((e.exchange grant).perform w).1 = .ok bundle →
        ∃ ms, response.Grants ms ∧ bundle.IsReadFrom ms arrived.now ∧
          ∀ idToken, bundle.idToken? = some idToken ↔
            ms.get? "id_token" = some (.str idToken) ∧ idToken ≠ "" := by
  have hbundle (bundle : TokenBundle) : ((e.exchange grant).perform w).1 = .ok bundle ↔
      read response arrived.now = .ok bundle := by
    rw [h.perform_exchange, conclude, mapError_eq_ok_iff]
  refine ⟨?_, ?_, ?_⟩
  · rw [h.perform_exchange]
    exact h.sent
  · simp only [hbundle, exists_read_iff]
  · intro bundle hdone
    obtain ⟨ms, hgrants, hread⟩ := read_eq_ok_iff.mp ((hbundle bundle).mp hdone)
    refine ⟨ms, hgrants, hread, fun idToken ↦ ?_⟩
    rw [TokenBundle.idToken?, hread.extra, Members.nonEmptyStr?_get_iff]

def answerOf (ms : Members) : Response where
  status := 200
  body := Text.utf8 ((Json.obj ms).write .compact)

theorem holds_answerOf {ms : Members} (hms : (Json.obj ms).IsLegible Json.depthLimit)
    (hnone : ms.get? "error" = none) : (answerOf ms).Holds ms :=
  ⟨rfl, Json.ofBytes_write JsonStyle.isStandard_compact hms, hnone⟩

/-- A world in which the next request is answered so. -/
def answeringWorld (r : Response) : World where
  now := sampleMoment
  deliveries := [{ outcome := .answered r }]

def sampleRequest : Request :=
  sampleProvider.data.tokenEndpoint.request (.code "c" "https://app")

/-- The request goes out, and the answer that waits for it comes back at once. -/
theorem receives_sampleRequest {w : World} {r : Response} (hopen : w.isClosed = false)
    (hd : w.deliveries = [{ outcome := .answered r }]) :
    ∃ arrived, w.Receives sampleRequest (.ok r) arrived ∧ arrived.now = w.now := by
  have habsolute : sampleRequest.destination.toOption.any (·.isAbsolute) = true := by
    decide +kernel
  obtain ⟨url, hurl, habsolute⟩ := (Option.any_eq_true _ _).mp habsolute
  have hsend : ∃ arrived, w.send (sampleRequest.sentTo url) = (.ok (.answered r), arrived) ∧
      arrived.now = w.now := by
    rw [World.send]
    simp only [hd]
    exact ⟨_, rfl, rfl⟩
  obtain ⟨arrived, hsend, hnow⟩ := hsend
  exact ⟨arrived, ⟨url, .answered r, toOption_eq_some_iff.mp hurl, hopen, hsend,
    if_pos habsolute⟩, hnow⟩

theorem receives_answeringWorld (r : Response) :
    ∃ arrived, (answeringWorld r).Receives sampleRequest (.ok r) arrived ∧
      arrived.now = sampleMoment :=
  receives_sampleRequest rfl rfl

/-- A payload that declares an hour in a text. -/
def hourPayload (idToken : String) : Members :=
  [("access_token", .str "new"), ("expires_in", .str " 3_600 "), ("id_token", .str idToken)]

theorem grants_hourPayload (idToken : String) :
    (answerOf (hourPayload idToken)).Grants (hourPayload idToken) where
  toHolds := holds_answerOf
    ⟨(by decide : (["access_token", "expires_in", "id_token"] : List Text).Nodup),
      Text.isJoined_plain _, Text.isJoined_plain _, Text.isJoined_plain _, Text.isJoined_plain _,
      Text.isJoined_plain _, Text.isJoined_plain _, trivial⟩ rfl
  access := ⟨"new", by decide, rfl⟩

theorem lasts_hourPayload (idToken : String) :
    TokenBundle.Lasts sampleMoment ((hourPayload idToken).get "expires_in") := by
  have hsome : (sampleMoment.addSeconds? 3600).isSome = true := by decide +kernel
  obtain ⟨expiry, hexpiry⟩ := Option.isSome_iff_exists.mp hsome
  exact .inr (.inr ⟨3600, rfl, .inr ⟨expiry, Moment.addSeconds?_eq_some_iff.mp hexpiry⟩⟩)

theorem exchange_accepts_hourPayload :
    ∃ arrived, (answeringWorld (answerOf (hourPayload "id"))).Receives sampleRequest
        (.ok (answerOf (hourPayload "id"))) arrived ∧
      ∃ bundle expiry,
        ((sampleProvider.data.tokenEndpoint.exchange (.code "c" "https://app")).perform
          (answeringWorld (answerOf (hourPayload "id")))).1 = .ok bundle ∧
        bundle.expiry = some expiry ∧ sampleMoment.IsAfter 3600 expiry ∧
        bundle.idToken? = some "id" := by
  obtain ⟨arrived, hreceives, hnow⟩ := receives_answeringWorld (answerOf (hourPayload "id"))
  obtain ⟨-, haccepts, hholds⟩ := exchange_accepts sampleProvider.data.tokenEndpoint _ hreceives
  rw [hnow] at haccepts hholds
  have hgrants := grants_hourPayload "id"
  obtain ⟨bundle, hbundle⟩ := haccepts.mpr ⟨_, hgrants, lasts_hourPayload "id"⟩
  obtain ⟨ms, hgranted, hread, hid⟩ := hholds bundle hbundle
  cases hgrants.toHolds.payload_eq hgranted.toHolds
  have hhour : ((hourPayload "id").get "expires_in").toInteger = .ok 3600 := rfl
  obtain ⟨expiry, hexpiry, hafter⟩ := hread.expiry_of_pos hhour (by decide)
  exact ⟨arrived, hreceives, bundle, expiry, hbundle, hexpiry, hafter,
    (hid "id").mpr ⟨rfl, by decide⟩⟩

/-! ## Failures -/

/-- What an exchange may come to: a bundle of an answer, a refusal on account of the network where
there is none, and a refusal on account of the endpoint. -/
inductive Declares : Except NetworkFault Response → Except Failure TokenBundle → Prop
  | bundle (response : Response) (bundle : TokenBundle) : Declares (.ok response) (.ok bundle)
  | unreachable (fault : NetworkFault) {error : AccessError} (h : error.kind = .transport) :
      Declares (.error fault) (.error (.refused error))
  | refused (response : Response) {error : AccessError} (h : error.kind = .tokenExchange) :
      Declares (.ok response) (.error (.refused error))

/-- **When failures are as declared.** An exchange comes to a bundle or to a refusal that tells
whose fault it is, unless nobody answers for the answer. -/
theorem exchange_declares (e : TokenEndpoint) (grant : Grant)
    (h : w.Receives (e.request grant) reply arrived) :
    Declares reply ((e.exchange grant).perform w).1 ↔
      ∀ response, reply = .ok response → ¬BreaksDown response arrived.now := by
  rw [h.perform_exchange]
  cases reply with
  | error fault => exact iff_of_true (.unreachable fault rfl) fun _ h ↦ nomatch h
  | ok response =>
    simp only [Except.ok.injEq, forall_eq', ← read_failsWith_iff, conclude]
    cases hread : read response arrived.now with
    | ok bundle => exact iff_of_true (.bundle response bundle) (not_failsWith_ok bundle)
    | error fault =>
      rw [failsWith_error_iff, mapError_error]
      constructor
      · rintro hdeclares ⟨d, hd⟩
        rw [hd] at hdeclares
        cases hdeclares
      · intro hdefect
        obtain ⟨error, herror, hkind⟩ := isRefused_of_read hread hdefect
        rw [herror]
        exact .refused response hkind

/-- A payload with a lifetime that is no number. -/
def soonPayload : Members :=
  [("access_token", .str "new"), ("expires_in", .str "soon")]

theorem exchange_declares_soonPayload :
    ∃ arrived, (answeringWorld (answerOf soonPayload)).Receives sampleRequest
        (.ok (answerOf soonPayload)) arrived ∧
      Declares (.ok (answerOf soonPayload))
        ((sampleProvider.data.tokenEndpoint.exchange (.code "c" "https://app")).perform
          (answeringWorld (answerOf soonPayload))).1 := by
  obtain ⟨arrived, hreceives, -⟩ := receives_answeringWorld (answerOf soonPayload)
  refine ⟨arrived, hreceives, ?_⟩
  have hholds : (answerOf soonPayload).Holds soonPayload := holds_answerOf
    ⟨(by decide : (["access_token", "expires_in"] : List Text).Nodup), Text.isJoined_plain _,
      Text.isJoined_plain _, Text.isJoined_plain _, Text.isJoined_plain _, trivial⟩ rfl
  refine (exchange_declares sampleProvider.data.tokenEndpoint _ hreceives).mpr ?_
  rintro response hresponse (hdeep | ⟨hgrants, hoverruns⟩)
  · cases hresponse
    cases hholds.body.symm.trans hdeep
  · cases hresponse
    cases hholds.payload_eq hgrants.toHolds
    rcases hoverruns with ⟨_, hinfinite⟩ | ⟨n, hn, -⟩
    · cases hinfinite
    · cases hn

/-- A payload with a lifetime of thirty thousand years. -/
def agesPayload : Members :=
  [("access_token", .str "new"), ("expires_in", .int 1000000000000)]

/-- A lifetime that ends after the calendar does is not refused. -/
theorem exchange_agesPayload :
    ∃ arrived, (answeringWorld (answerOf agesPayload)).Receives sampleRequest
        (.ok (answerOf agesPayload)) arrived ∧
      ((sampleProvider.data.tokenEndpoint.exchange (.code "c" "https://app")).perform
          (answeringWorld (answerOf agesPayload))).1 = .error (.defect .tooLarge) ∧
      ¬Declares (.ok (answerOf agesPayload)) (.error (.defect .tooLarge)) := by
  obtain ⟨arrived, hreceives, hnow⟩ := receives_answeringWorld (answerOf agesPayload)
  refine ⟨arrived, hreceives, ?_, nofun⟩
  have hwritten : 1000000000000 < Nat.pow 10 Text.digitLimit :=
    Json.lt_pow_of_lt_pow (by decide : 13 ≤ Text.digitLimit) (by decide)
  have hholds : (answerOf agesPayload).Holds agesPayload := holds_answerOf
    ⟨(by decide : (["access_token", "expires_in"] : List Text).Nodup), Text.isJoined_plain _,
      Text.isJoined_plain _, Text.isJoined_plain _, hwritten, trivial⟩ rfl
  have hpast : sampleMoment.addSeconds? (Int.toNat 1000000000000) = none := by decide +kernel
  have hexpiry : TokenBundle.expiryAfter sampleMoment (some 1000000000000) =
      .error (.defect .tooLarge) := by
    simp only [TokenBundle.expiryAfter, hpast]
    rfl
  have hbundle : TokenBundle.ofMembers agesPayload sampleMoment = .error (.defect .tooLarge) := by
    have haccess : (agesPayload.get "access_token").nonEmptyStr? = some "new" := rfl
    have hlifetime : TokenBundle.lifetime? (agesPayload.get "expires_in") =
      .ok (some 1000000000000) := rfl
    rw [TokenBundle.ofMembers, haccess, hlifetime]
    exact bind_eq_error_iff.mpr (.inr ⟨_, rfl, bind_eq_error_iff.mpr (.inl hexpiry)⟩)
  rw [World.Receives.perform_exchange hreceives, hnow, conclude, read_of_holds hholds, hbundle]
  rfl

end TokenEndpoint

end SessionGate
