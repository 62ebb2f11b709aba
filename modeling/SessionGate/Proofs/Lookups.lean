import SessionGate.Proofs.Exchanges

/-!
# What becomes of a lookup

A lookup presents an access token to the userinfo endpoint and reads the email in the answer.
`Response.Names` says which email that is. A lookup should end with it, or with a refusal that tells
what was wrong: the way to the endpoint, or what the endpoint said. These are the outcomes that
`Userinfo.Declares` admits.

## Tokens that cannot be presented

An access token is a text of the caller, and it is presented in a header, whose letters have to be
of ASCII. A text with any other letter does not get as far as the network. It is not refused either:
`Userinfo.fetchEmail_declares` says that lookups come to what is declared for the tokens that can be
presented, and that nobody answers for the others.
-/

namespace SessionGate

/-! ## Requests and their headers -/

/-- A reply waits where the request would go, in the world there is then. Nothing is said about the
headers of the request. -/
def World.Offers (w : World) (r : Request) (reply : Except NetworkFault Response)
    (arrived : World) : Prop :=
  ∃ url outcome, Url.ofText? r.url = some url ∧ w.isClosed = false ∧
    w.send (r.sentTo url.destination) = (.ok outcome, arrived) ∧
    outcome.reply url.destination = .ok reply

namespace World.Offers

variable {w arrived : World} {r : Request} {reply : Except NetworkFault Response}

/-- The reply is received if headers and body can be sent. -/
theorem receives (h : w.Offers r reply arrived) (hsendable : r.isSendable = true) {body : String}
    (hbody : r.content? = some body) : w.Receives r reply arrived := by
  obtain ⟨url, outcome, hurl, hopen, hsend, hreply⟩ := h
  have hdestination := Request.destination_eq_ok_iff.mpr ⟨url, body, hurl, hsendable, hbody, rfl⟩
  exact ⟨url.destination, outcome, hdestination, hopen, hsend, hreply⟩

theorem perform_send_of_not_sendable (h : w.Offers r reply arrived)
    (hsendable : ¬r.isSendable = true) :
    (Action.send r).perform w = (.error (.defect .notAscii), w) := by
  obtain ⟨url, outcome, hurl, -⟩ := h
  have hdestination : r.destination = .error .notAscii := by
    rw [Request.destination, hurl, Bool.eq_false_iff.mpr hsendable]
    rfl
  rw [Action.perform_send, hdestination]

end World.Offers

/-! ## Answers -/

/-- The answer is in order and names an email. -/
structure Response.Names (r : Response) (email : Text) : Prop where
  status : r.status = 200
  body : ∃ ms : Members, Json.ofBytes r.body = .ok (.obj ms) ∧ ms.get? "email" = some (.str email)
  email_ne : email ≠ .plain ""

/-- The answer is in order up to its body, which is nested too deeply. -/
def Response.IsTooDeep (r : Response) : Prop :=
  r.status = 200 ∧ Json.ofBytes r.body = .error .tooDeep

namespace Userinfo

/-- What a lookup may come to: the email that the answer names, and a refusal on account of the
network, of the status, or of a body that names no email. -/
inductive Declares : Except NetworkFault Response → Except Failure Text → Prop
  | email {response : Response} {email : Text} (h : response.Names email) :
      Declares (.ok response) (.ok email)
  | unreachable (fault : NetworkFault) {error : AccessError} (h : error.kind = .transport) :
      Declares (.error fault) (.error (.refused error))
  | rejected {response : Response} {error : AccessError} (hstatus : response.status ≠ 200)
      (h : error.kind = .transport) : Declares (.ok response) (.error (.refused error))
  | unusable {response : Response} {error : AccessError} (hstatus : response.status = 200)
      (hnone : ∀ email, ¬response.Names email) (h : error.kind = .userinfo) :
      Declares (.ok response) (.error (.refused error))

variable {response : Response} {email : Text}

/-- An answer names one email at most. -/
theorem email_eq_of_names {other : Text} (h : response.Names email)
    (h' : response.Names other) : email = other := by
  obtain ⟨ms, hbody, hget⟩ := h.body
  obtain ⟨ns, hbody', hget'⟩ := h'.body
  cases hbody.symm.trans hbody'
  cases hget.symm.trans hget'
  rfl

theorem declares_read (h : ¬response.IsTooDeep) : Declares (.ok response) (read response) := by
  by_cases hstatus : response.status = 200
  · have hread : ∀ {v : Json}, Json.ofBytes response.body = .ok v →
        ∀ {email}, response.Names email →
          ∃ ms : Members, v = .obj ms ∧ ms.get? "email" = some (.str email) := by
      intro v hv email hnames
      obtain ⟨ms, hbody, hget⟩ := hnames.body
      exact ⟨ms, Except.ok.inj (hv.symm.trans hbody), hget⟩
    rw [read, if_neg (not_not.mpr hstatus)]
    cases hbody : Json.ofBytes response.body with
    | error fault =>
      have hnone : ∀ email, ¬response.Names email := by
        intro email hnames
        obtain ⟨ms, hms, -⟩ := hnames.body
        cases hbody.symm.trans hms
      cases fault with
      | tooDeep => exact absurd ⟨hstatus, hbody⟩ h
      | _ => exact .unusable hstatus hnone rfl
    | ok v =>
      cases v with
      | obj ms =>
        simp only
        cases hemail : (Members.get ms "email").nonEmptyStr? with
        | some email =>
          obtain ⟨hget, hne⟩ := Members.nonEmptyStr?_get_iff.mp hemail
          exact .email ⟨hstatus, ⟨ms, hbody, hget⟩, hne⟩
        | none =>
          refine .unusable hstatus (fun email hnames ↦ ?_) rfl
          obtain ⟨ns, hns, hget⟩ := hread hbody hnames
          cases hns
          rw [Members.nonEmptyStr?_get_iff.mpr ⟨hget, hnames.email_ne⟩] at hemail
          cases hemail
      | _ =>
        refine .unusable hstatus (fun email hnames ↦ ?_) rfl
        obtain ⟨ns, hns, -⟩ := hread hbody hnames
        cases hns
  · rw [read, if_pos hstatus]
    exact .rejected hstatus rfl

/-- Nobody answers for a body that is nested too deeply. -/
theorem read_of_isTooDeep (h : response.IsTooDeep) :
    read response = .error (.defect (.badDocument .tooDeep)) := by
  rw [read, if_neg (not_not.mpr h.1)]
  simp only [h.2]

theorem declares_read_iff : Declares (.ok response) (read response) ↔ ¬response.IsTooDeep := by
  refine ⟨fun hdeclares hdeep ↦ ?_, declares_read⟩
  rw [read_of_isTooDeep hdeep] at hdeclares
  cases hdeclares

/-- The email that is read is the one that is named. -/
theorem read_eq_ok_iff : read response = .ok email ↔ response.Names email := by
  constructor
  · intro hread
    have hshallow : ¬response.IsTooDeep := by
      intro hdeep
      cases hread.symm.trans (read_of_isTooDeep hdeep)
    have hdeclares := declares_read hshallow
    rw [hread] at hdeclares
    cases hdeclares with
    | email hnames => exact hnames
  · intro hnames
    have hshallow : ¬response.IsTooDeep := by
      rintro ⟨-, hdeep⟩
      obtain ⟨ms, hbody, -⟩ := hnames.body
      cases hbody.symm.trans hdeep
    have hdeclares := declares_read hshallow
    generalize read response = result at hdeclares
    cases hdeclares with
    | email hother => rw [email_eq_of_names hother hnames]
    | rejected hstatus => exact absurd hnames.status hstatus
    | unusable _ hnone => exact absurd hnames (hnone email)

/-! ## Lookups -/

def IsPresentable (token : Text) : Prop :=
  ∀ p ∈ token.points, p.toNat < 128

instance (token : Text) : Decidable (IsPresentable token) :=
  List.decidableBAll (fun p : CodePoint ↦ p.toNat < 128) token.points

theorem isSendable_request (u : Userinfo) (token : Text) :
    (u.request (.str token)).isSendable = true ↔ IsPresentable token := by
  have hscheme : (Text.plain "Bearer ").points.all (·.toNat < 128) = true := by decide
  have hheader : (u.request (.str token)).isSendable =
      (Text.plain "Bearer " ++ token).points.all (·.toNat < 128) := rfl
  rw [hheader, Text.points_append, List.all_append, hscheme, Bool.true_and, List.all_eq_true]
  simp only [decide_eq_true_eq, IsPresentable]

variable {w arrived : World} {reply : Except NetworkFault Response}

/-- A lookup whose reply is received comes to what the reply says, and writes at most. -/
theorem perform_fetchEmail (u : Userinfo) {token : Json}
    (h : w.Receives (u.request token) reply arrived) :
    ∃ entries, (u.fetchEmail token).perform w =
      (match reply with
        | .error fault => .error (.refused (u.unreachable fault))
        | .ok response => read response,
        arrived.written entries) := by
  rw [fetchEmail, Action.perform_bind, h.perform_send]
  cases reply with
  | error fault =>
    exact ⟨_, by simp only [Action.perform_bind, Action.perform_log, Action.perform_refuse]; rfl⟩
  | ok response =>
    exact ⟨_, by simp only [Action.perform_bind, Action.perform_logAll, Action.perform_lift]; rfl⟩

/-- Nobody answers for a token that cannot be presented, and nothing is sent. -/
theorem perform_fetchEmail_of_not_presentable {u : Userinfo} {token : Text}
    (h : w.Offers (u.request (.str token)) reply arrived) (htoken : ¬IsPresentable token) :
    (u.fetchEmail (.str token)).perform w = (.error (.defect .notAscii), w) := by
  have hsendable : ¬(u.request (.str token)).isSendable = true :=
    fun hsendable ↦ htoken ((isSendable_request u token).mp hsendable)
  rw [fetchEmail, Action.perform_bind, h.perform_send_of_not_sendable hsendable]

/-- **What becomes of a lookup.** A token that can be presented is answered with the email that the
reply names, or with a refusal that tells what is wrong with the reply, and no session changes. For
a token that cannot be presented nothing is sent, and nobody answers for that. -/
theorem fetchEmail_declares (u : Userinfo) (s : Session) {token : Text}
    (htoken : s.accessToken = .str token) (h : w.Offers (u.request s.accessToken) reply arrived) :
    (Declares reply ((u.fetchEmail s.accessToken).perform w).1 ↔
        IsPresentable token ∧ ∀ response, reply = .ok response → ¬response.IsTooDeep) ∧
      (IsPresentable token →
        (∀ email, ((u.fetchEmail s.accessToken).perform w).1 = .ok email ↔
            ∃ response, reply = .ok response ∧ response.Names email) ∧
          ((u.fetchEmail s.accessToken).perform w).2.sessions = arrived.sessions) ∧
      (¬IsPresentable token →
        (u.fetchEmail s.accessToken).perform w = (.error (.defect .notAscii), w)) := by
  rw [htoken] at h ⊢
  by_cases hpresentable : IsPresentable token
  · obtain ⟨entries, hperform⟩ :=
      perform_fetchEmail u (h.receives ((isSendable_request u token).mpr hpresentable) rfl)
    rw [hperform]
    refine ⟨?_, fun _ ↦ ⟨fun email ↦ ?_, rfl⟩, fun hnot ↦ absurd hpresentable hnot⟩
    · rw [and_iff_right hpresentable]
      cases reply with
      | error fault => exact iff_of_true (.unreachable fault rfl) fun _ h ↦ nomatch h
      | ok response => simp only [Except.ok.injEq, forall_eq', declares_read_iff]
    · cases reply with
      | error fault => exact iff_of_false (fun h ↦ nomatch h) fun ⟨_, h, _⟩ ↦ nomatch h
      | ok response => simp only [Except.ok.injEq, exists_eq_left', read_eq_ok_iff]
  · have hperform := perform_fetchEmail_of_not_presentable h hpresentable
    refine ⟨?_, fun hyes ↦ absurd hyes hpresentable, fun _ ↦ hperform⟩
    rw [hperform]
    exact iff_of_false (fun hdeclares ↦ nomatch hdeclares) fun hboth ↦ hpresentable hboth.1

def sampleAnswer : Response :=
  TokenEndpoint.answerOf [("email", .str "a@b")]

theorem names_sampleAnswer : sampleAnswer.Names "a@b" := by
  have hlegible : (Json.obj [("email", .str "a@b")]).IsLegible Json.depthLimit :=
    ⟨(by decide : [Text.plain "email"].Nodup), Text.isJoined_plain _, Text.isJoined_plain _,
      trivial⟩
  exact ⟨rfl, ⟨_, (TokenEndpoint.holds_answerOf hlegible rfl).body, rfl⟩, by decide⟩

/-- The answer waits for a lookup of the sample provider, whatever the token. -/
theorem offers_sampleAnswer (token : Json) :
    ∃ arrived, (TokenEndpoint.answeringWorld sampleAnswer).Offers
      (sampleProvider.data.userinfo.request token) (.ok sampleAnswer) arrived := by
  have habsolute :
      (Url.ofText? sampleProvider.data.userinfo.url).any (·.destination.isAbsolute) = true := by
    decide +kernel
  obtain ⟨url, hurl, habsolute⟩ := (Option.any_eq_true _ _).mp habsolute
  exact ⟨_, url, .answered sampleAnswer, hurl, rfl, rfl, if_pos habsolute⟩

theorem fetchEmail_sampleAnswer :
    ∃ arrived, (sampleSession "id").accessToken = .str "access" ∧ IsPresentable "access" ∧
      (TokenEndpoint.answeringWorld sampleAnswer).Offers
        (sampleProvider.data.userinfo.request (.str "access")) (.ok sampleAnswer) arrived ∧
      ((sampleProvider.data.userinfo.fetchEmail (.str "access")).perform
        (TokenEndpoint.answeringWorld sampleAnswer)).1 = .ok "a@b" := by
  obtain ⟨arrived, hoffers⟩ := offers_sampleAnswer (sampleSession "id").accessToken
  have hpresentable : IsPresentable "access" := by decide
  obtain ⟨-, hanswered, -⟩ :=
    fetchEmail_declares sampleProvider.data.userinfo (sampleSession "id") rfl hoffers
  have hemail := ((hanswered hpresentable).1 "a@b").mpr ⟨_, rfl, names_sampleAnswer⟩
  exact ⟨arrived, rfl, hpresentable, hoffers, hemail⟩

/-- A session whose access token has a letter with an accent. -/
def accentedSession : Session :=
  { sampleSession "id" with
    credentials := { (sampleSession "id").credentials with accessToken := .str "é" } }

/-- One such letter keeps a token from being presented, and the lookup is not refused. -/
theorem fetchEmail_accentedSession :
    ∃ arrived, accentedSession.accessToken = .str "é" ∧
      (TokenEndpoint.answeringWorld sampleAnswer).Offers
        (sampleProvider.data.userinfo.request accentedSession.accessToken) (.ok sampleAnswer)
        arrived ∧
      ((sampleProvider.data.userinfo.fetchEmail accentedSession.accessToken).perform
        (TokenEndpoint.answeringWorld sampleAnswer)).1 = .error (.defect .notAscii) ∧
      ¬Declares (.ok sampleAnswer) (.error (.defect .notAscii)) := by
  obtain ⟨arrived, hoffers⟩ := offers_sampleAnswer (.str "é")
  have hperform := perform_fetchEmail_of_not_presentable hoffers (by decide)
  exact ⟨arrived, rfl, hoffers, congrArg Prod.fst hperform, nofun⟩

end Userinfo

end SessionGate
