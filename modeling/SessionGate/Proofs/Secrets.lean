import Mathlib.Data.List.Forall2
import SessionGate.Proofs.JsonTexts
import SessionGate.Proofs.TokenWorlds

/-!
# What is kept secret

The secret of a client and an authorization code go into the form that is sent to the token
endpoint, and nowhere else. Tokens go into sessions, and nowhere else. Both are statements about two
runs that differ in the secret things: `Provider.secrets_kept`.

Two worlds are the same but for secrets if they differ at most in what was sent, and there only in
the values of some fields of forms. A run is a list of calls of one caller; between two calls, time
passes and sessions come and go.

## Secrets that cannot be written

Secrets and codes are texts without surrogates here. Any other text does not get into a form, and
then nothing is sent, so that the call ends otherwise than it would with a secret that can be
written. It is the same with a refresh token: `Provider.callAll_of_looseText`.
-/

namespace SessionGate

open SessionGate.Action

/-! ## Forms that differ in secrets -/

def Form.secretFields : List Text := ["client_secret", "code"]

/-- Two forms that differ at most in the values of secret fields. -/
def Form.SameButSecrets : Form → Form → Prop :=
  List.Forall₂ fun a b ↦ a.1 = b.1 ∧ (a.1 ∈ secretFields ∨ a.2 = b.2)

theorem Form.sameButSecrets_refl (form : Form) : SameButSecrets form form :=
  List.forall₂_same.mpr fun _ _ ↦ ⟨rfl, .inr rfl⟩

/-- Two requests that differ at most in the secrets of their forms. -/
structure Request.SameButSecrets (r r' : Request) : Prop where
  others : r' = { r with form := r'.form }
  form : Form.SameButSecrets r.form r'.form

theorem Request.sameButSecrets_refl (r : Request) : r.SameButSecrets r :=
  ⟨rfl, Form.sameButSecrets_refl r.form⟩

/-- Two worlds that differ at most in the secrets of requests that were sent. -/
def World.SameButSecrets (w v : World) : Prop :=
  ∃ sent, v = { w with sent } ∧ List.Forall₂ Request.SameButSecrets w.sent sent

theorem World.likeness_sameButSecrets : World.Likeness World.SameButSecrets where
  now := by
    rintro w _ ⟨sent, rfl, -⟩
    rfl
  sessions := by
    rintro w _ ⟨sent, rfl, -⟩
    rfl
  policy := by
    rintro w _ ⟨sent, rfl, -⟩
    rfl
  write := by
    rintro w _ ⟨sent, rfl, h⟩ entry
    exact ⟨sent, rfl, h⟩
  keep := by
    rintro w _ ⟨sent, rfl, h⟩ ss
    exact ⟨sent, rfl, h⟩
  count := by
    rintro w _ ⟨sent, rfl, h⟩ key f
    exact ⟨sent, rfl, h⟩
  name := by
    rintro w _ ⟨sent, rfl, h⟩ user
    exact ⟨sent, rfl, h⟩

/-- What was sent before makes no difference to the next request, and neither does its form. -/
theorem World.send_with (w : World) (sent : List Request) {r r' : Request}
    (h : r' = { r with form := r'.form }) :
    ({ w with sent }.send r').1 = (w.send r).1 ∧
      ({ w with sent }.send r').2 = { (w.send r).2 with sent := sent ++ [w.dress r'] } := by
  rw [h, send, send]
  cases w.deliveries with
  | nil => exact ⟨rfl, rfl⟩
  | cons d rest =>
    simp only [pass]
    rcases w.sessions.commitAll d.commits with ⟨_ | _, sessions⟩ <;> exact ⟨rfl, rfl⟩

/-- Requests that are the same but for secrets go to the same place. -/
theorem Request.SameButSecrets.sentTo {r r' : Request} (h : r.SameButSecrets r') (url : Url) :
    (r.sentTo url).SameButSecrets (r'.sentTo url) := by
  refine ⟨?_, h.form⟩
  rw [h.others]
  rfl

theorem Request.SameButSecrets.dress {r r' : Request} (h : r.SameButSecrets r') (w : World) :
    (w.dress r).SameButSecrets (w.dress r') := by
  refine ⟨?_, h.form⟩
  rw [h.others]
  rfl

theorem Action.alike_send_of_sameButSecrets {r r' : Request} (h : r.SameButSecrets r')
    (hcontent : r'.content?.isSome = r.content?.isSome) :
    Alike World.SameButSecrets (send r) (send r') := by
  rintro w _ ⟨sent, rfl, hsent⟩
  rw [perform_send, perform_send, Request.destination_congr h.others hcontent]
  cases r.destination with
  | error defect => exact ⟨agree_refl _, sent, rfl, hsent⟩
  | ok url =>
    by_cases hclosed : w.isClosed = true
    · simp only [if_pos hclosed]
      exact ⟨agree_refl _, sent, rfl, hsent⟩
    · obtain ⟨hresult, hworld⟩ := w.send_with sent (h.sentTo url).others
      simp only [if_neg hclosed, hresult, hworld]
      refine ⟨agree_refl _, _, rfl, ?_⟩
      rw [World.send_sent]
      exact List.rel_append hsent (.cons ((h.sentTo url).dress w) .nil)

namespace Provider

/-! ## Runs of calls -/

inductive Call where
  | redeem (redirectUrl code : Text)
  | refreshSession (name : Option String)
  | refreshIfNeeded (name : Option String)
  | validateGroup (s : Session)
  | validateSession (s : Session)
  | emailAddress (s : Session)
  /-- Time passes, and the caller has other sessions than before. -/
  | pause (now : Moment) (deliveries : List Delivery) (sessions : Sessions)

inductive Reply where
  | session (s : Session)
  | freshSession (s : Option Session)
  | verdict (verdict : Bool)
  | email (email : Text)
  | nothing

def call (p : Provider) : Call → Action Reply
  | .redeem redirectUrl code => do return .session (← p.redeem redirectUrl code)
  | .refreshSession name => do return .freshSession (← p.refreshSession name)
  | .refreshIfNeeded name => do return .verdict (← p.refreshIfNeeded name)
  | .validateGroup s => do return .verdict (← p.validateGroup s)
  | .validateSession s => do return .verdict (← p.validateSession s)
  | .emailAddress s => do return .email (← p.emailAddress s)
  | .pause now deliveries sessions => do
    modify fun w ↦ { w with now, deliveries, sessions }
    return .nothing

/-- The results of calls that are made one after the other, and the world after them. -/
def callAll (p : Provider) : List Call → World → List (Except Failure Reply) × World
  | [], w => ([], w)
  | c :: cs, w =>
    let (result, after) := (p.call c).perform w
    let (results, last) := callAll p cs after
    (result :: results, last)

/-- Two calls that differ at most in the code that is redeemed. -/
inductive Call.SameButCode : Call → Call → Prop where
  | same (c : Call) : SameButCode c c
  | redeem (redirectUrl : Text) (code code' : String) :
      SameButCode (.redeem redirectUrl code) (.redeem redirectUrl code')

section Calls

variable (p : Provider) (secret secret' : String)

/-- Forms for grants can be written with either secret. -/
theorem isSome_content?_withSecret {grant grant' : Grant}
    (h : (grant'.pairs.all fun pair ↦ pair.1.isPlain && pair.2.isPlain) =
      grant.pairs.all fun pair ↦ pair.1.isPlain && pair.2.isPlain) :
    ((p.withSecret secret').data.tokenEndpoint.request grant').content?.isSome =
      ((p.withSecret secret).data.tokenEndpoint.request grant).content?.isSome := by
  rw [Request.content?, Request.content?, Form.isSome_encode?, Form.isSome_encode?]
  simp only [TokenEndpoint.request, TokenEndpoint.pairs, List.all_append, h]
  rfl

/-- What is sent for two codes differs in the codes and the secrets. -/
theorem sendsAlike_code (redirectUrl : Text) {code code' : Text}
    (hcode : code'.isPlain = code.isPlain) :
    SendsAlike World.SameButSecrets p secret secret' (.code code redirectUrl)
      (.code code' redirectUrl) := by
  refine alike_send_of_sameButSecrets ⟨rfl, ?_⟩ (p.isSome_content?_withSecret secret secret' ?_)
  · simp [Form.SameButSecrets, TokenEndpoint.request, TokenEndpoint.pairs, Grant.pairs,
      Form.secretFields, withSecret, ProviderData.tokenEndpoint]
  · simp only [Grant.pairs, List.all_cons, hcode]

theorem sendsAlike_refresh (token : Json) :
    SendsAlike World.SameButSecrets p secret secret' (.refresh token) (.refresh token) := by
  refine alike_send_of_sameButSecrets ⟨rfl, ?_⟩ (p.isSome_content?_withSecret secret secret' rfl)
  refine List.rel_append (Form.sameButSecrets_refl _) ?_
  simp [Form.secretFields, withSecret, ProviderData.tokenEndpoint]

theorem alike_call {c c' : Call} (h : c.SameButCode c') :
    Alike World.SameButSecrets ((p.withSecret secret).call c)
      ((p.withSecret secret').call c') := by
  have hR := World.likeness_sameButSecrets
  have hrefresh := p.sendsAlike_refresh secret secret'
  cases h with
  | redeem redirectUrl code code' =>
    have hplain : (Text.plain code').isPlain = (Text.plain code).isPlain := rfl
    exact (alike_redeem hR p (p.sendsAlike_code secret secret' redirectUrl hplain)).bind
      fun _ ↦ alike_pure _
  | same =>
    cases c with
    | redeem redirectUrl code =>
      exact (alike_redeem hR p (p.sendsAlike_code secret secret' redirectUrl rfl)).bind
        fun _ ↦ alike_pure _
    | refreshSession name =>
      exact (alike_refreshSession hR p hrefresh name).bind fun _ ↦ alike_pure _
    | refreshIfNeeded name =>
      exact (alike_refreshIfNeeded hR p hrefresh name).bind fun _ ↦ alike_pure _
    | validateGroup s => exact (alike_validateGroup hR p s).bind fun _ ↦ alike_pure _
    | validateSession s => exact (alike_validateSession hR p s).bind fun _ ↦ alike_pure _
    | emailAddress s =>
      have hsend := alike_send_of_sameButSecrets
        (p.data.userinfo.request s.accessToken).sameButSecrets_refl rfl
      exact (alike_emailAddress hR p hsend).bind fun _ ↦ alike_pure _
    | pause now deliveries sessions =>
      rintro w _ ⟨sent, rfl, h⟩
      exact ⟨.ok rfl, sent, rfl, h⟩

/-- Calls that differ in codes, to providers that differ in their secrets, have the same results and
leave worlds that are the same but for secrets. -/
theorem callAll_alike {cs cs' : List Call} (h : List.Forall₂ Call.SameButCode cs cs')
    {w v : World} (hw : w.SameButSecrets v) :
    ((p.withSecret secret).callAll cs w).1 = ((p.withSecret secret').callAll cs' v).1 ∧
      World.SameButSecrets ((p.withSecret secret).callAll cs w).2
        ((p.withSecret secret').callAll cs' v).2 := by
  induction h generalizing w v with
  | nil => exact ⟨rfl, hw⟩
  | cons hc hcs ih =>
    obtain ⟨hresult, hafter⟩ := p.alike_call secret secret' hc w v hw
    obtain ⟨hresults, hlast⟩ := ih hafter
    exact ⟨congrArg₂ List.cons hresult.eq hresults, hlast⟩

end Calls

end Provider

/-! ## What is kept secret -/

namespace Provider

variable (p : Provider)

/-- **Secrets go into forms and tokens into sessions.** Calls that differ in codes, to providers
that differ in their secrets, give the same results and leave the same world, and what they have
sent differs in the values of secret fields. Answers that differ in tokens give the same failure or
sessions that differ in tokens, and the same lines in the log. -/
theorem secrets_kept :
    (∀ (secret secret' : String) (calls calls' : List Call) (w : World),
      List.Forall₂ Call.SameButCode calls calls' →
        let done := (p.withSecret secret).callAll calls w
        let done' := (p.withSecret secret').callAll calls' w
        done'.1 = done.1 ∧ done'.2 = { done.2 with sent := done'.2.sent } ∧
          List.Forall₂ Request.SameButSecrets done.2.sent done'.2.sent) ∧
      ∀ w w' : World, w.SameButTokens w' →
        (∀ redirectUrl code : Text,
          let done := (p.redeem redirectUrl code).perform w
          let done' := (p.redeem redirectUrl code).perform w'
          Agree Session.SameButTokens done.1 done'.1 ∧ done.2.SameButTokens done'.2) ∧
        ∀ name : Option String, (∀ n ∈ name, PostsAlike w w' n) →
          let done := (p.refreshIfNeeded name).perform w
          let done' := (p.refreshIfNeeded name).perform w'
          done.1 = done'.1 ∧ done.2.SameButTokens done'.2 := by
  refine ⟨fun secret secret' calls calls' w hcalls ↦ ?_, fun w w' hw ↦ ⟨fun redirectUrl code ↦ ?_,
    fun name hposts ↦ ?_⟩⟩
  · have hsame : w.SameButSecrets w :=
      ⟨w.sent, rfl, List.forall₂_same.mpr fun r _ ↦ r.sameButSecrets_refl⟩
    obtain ⟨hresults, sent, hworld, hsent⟩ := p.callAll_alike secret secret' hcalls hsame
    dsimp only
    rw [hworld]
    exact ⟨hresults.symm, rfl, hsent⟩
  · have htrade := p.alikeUpTo_trade (show (Grant.code code redirectUrl).name =
      (Grant.code code redirectUrl).name from rfl) rfl redeemError
    exact htrade w w' hw
  · obtain ⟨hresult, hafter⟩ := p.agree_refreshIfNeeded hw name hposts
    exact ⟨hresult.eq, hafter⟩

/-- The tokens of an answer, with one word for both tokens. -/
def wordPayload (word : String) : Members :=
  [("access_token", .str word), ("refresh_token", .str word), ("id_token", .str fullToken)]

/-- A world in which a code is answered with them. -/
def wordWorld (word : String) : World where
  now := sampleMoment
  deliveries := [{
    outcome := .answered {
      status := 200
      body := Text.utf8 ((Json.obj (wordPayload word)).write .compact) } }]

/-- A world with a stale session that holds some refresh token, and with nobody to answer. -/
def tokenWorld (token : Text) : World where
  now := sampleMoment
  sessions := [("s", { sampleSession bareToken with
    credentials := { (sampleSession bareToken).credentials with refreshToken := .str token } })]

/-- A world in which a stale session holds one of them already. -/
def staleWorld (word : String) : World :=
  { wordWorld word with sessions := (tokenWorld word).sessions }

theorem secrets_kept_sampleProvider :
    List.Forall₂ Call.SameButCode [.redeem "https://app" "c"] [.redeem "https://app" "d"] ∧
      (wordWorld "a").SameButTokens (wordWorld "b") ∧
      ((sampleProvider.withSecret "s").callAll [.redeem "https://app" "c"] (wordWorld "a")).1 =
        ((sampleProvider.withSecret "t").callAll [.redeem "https://app" "d"] (wordWorld "a")).1 ∧
      Agree Session.SameButTokens
        ((sampleProvider.redeem "https://app" "c").perform (wordWorld "a")).1
        ((sampleProvider.redeem "https://app" "c").perform (wordWorld "b")).1 ∧
      (staleWorld "a").SameButTokens (staleWorld "b") ∧
      (∀ n ∈ some "s", PostsAlike (staleWorld "a") (staleWorld "b") n) ∧
      ((sampleProvider.refreshIfNeeded (some "s")).perform (staleWorld "a")).1 =
        ((sampleProvider.refreshIfNeeded (some "s")).perform (staleWorld "b")).1 := by
  have hcalls : List.Forall₂ Call.SameButCode [.redeem "https://app" "c"]
      [.redeem "https://app" "d"] := .cons (.redeem _ _ _) .nil
  have htoken : (Json.str "a").SameButToken (.str "b") := .tokens (by decide) (by decide)
  have hworlds : (wordWorld "a").SameButTokens (wordWorld "b") := by
    refine ⟨rfl, rfl, rfl, rfl, rfl, .cons ⟨?_, rfl, rfl⟩ .nil, .nil⟩
    have hread (word : String) :
        Json.ofBytes (Text.utf8 ((Json.obj (wordPayload word)).write .compact)) =
          .ok (.obj (wordPayload word)) := by
      refine Json.ofBytes_write JsonStyle.isStandard_compact ⟨?_, ?_⟩
      · simp [Members.names, wordPayload]
      · simp [wordPayload, Json.MembersAreLegible, Json.IsLegible, Text.isJoined_plain]
    refine .answered (.payload (hread "a") (hread "b") ?_)
    exact .cons ⟨rfl, htoken⟩ (.cons ⟨rfl, htoken⟩ (.cons ⟨rfl, rfl⟩ .nil))
  have hstale : (staleWorld "a").SameButTokens (staleWorld "b") :=
    { hworlds with
      sessions := .cons ⟨rfl, { Session.SameButTokens.refl (sampleSession bareToken) with
        refreshToken := htoken }⟩ .nil }
  have hposts : ∀ n ∈ some "s", PostsAlike (staleWorld "a") (staleWorld "b") n := by
    rintro _ ⟨⟩ s s' ⟨⟩ ⟨⟩
    exact .inr ⟨"a", "b", rfl, rfl⟩
  obtain ⟨hkept, htokens⟩ := secrets_kept sampleProvider
  exact ⟨hcalls, hworlds, (hkept "s" "t" _ _ _ hcalls).1.symm,
    ((htokens _ _ hworlds).1 "https://app" "c").1, hstale, hposts,
    ((htokens _ _ hstale).2 (some "s") hposts).1⟩

/-- A text of one surrogate. -/
def looseText : Text := .ofPoints [.ofNat 0xDC80]

/-- Whether all that calls gave is refusals. -/
def areRefused (results : List (Except Failure Reply)) : Bool :=
  results.all fun result ↦
    match result with
    | .error (.refused _) => true
    | _ => false

/-- A redemption shows that the secret is a surrogate, and a refresh that the token is one: where
with another text a request would go out and be refused, none does, and nobody answers for that. -/
theorem callAll_of_looseText :
    (let calls : List Call := [.redeem "https://app" "c"]
      let done := (sampleProvider.withSecret looseText).callAll calls { now := sampleMoment }
      let done' := (sampleProvider.withSecret "s").callAll calls { now := sampleMoment }
      done.2.sent = [] ∧ done'.2.sent.length = 1 ∧ areRefused done.1 = false ∧
        areRefused done'.1 = true ∧ done.1 ≠ done'.1) ∧
      (tokenWorld looseText).SameButTokens (tokenWorld "s") ∧
        (let calls : List Call := [.refreshIfNeeded (some "s")]
          let done := sampleProvider.callAll calls (tokenWorld looseText)
          let done' := sampleProvider.callAll calls (tokenWorld "s")
          done.2.sent = [] ∧ done'.2.sent.length = 1 ∧ areRefused done.1 = false ∧
            areRefused done'.1 = true ∧ done.1 ≠ done'.1) := by
  -- whether replies are equal is not decided, but one list is of refusals and the other is not
  have hne {done done' : List (Except Failure Reply)} (h : areRefused done = false)
      (h' : areRefused done' = true) : done ≠ done' := by
    rintro rfl
    rw [h] at h'
    cases h'
  have htoken : (Json.str looseText).SameButToken (.str "s") := .tokens (by decide) (by decide)
  refine ⟨?_, ⟨rfl, rfl, rfl, rfl, rfl, .nil, .cons ⟨rfl, ?_⟩ .nil⟩, ?_⟩
  · intro calls done done'
    have hdone : done.2.sent = [] ∧ areRefused done.1 = false := by decide +kernel
    have hdone' : done'.2.sent.length = 1 ∧ areRefused done'.1 = true := by decide +kernel
    exact ⟨hdone.1, hdone'.1, hdone.2, hdone'.2, hne hdone.2 hdone'.2⟩
  · exact { Session.SameButTokens.refl (sampleSession bareToken) with refreshToken := htoken }
  · intro calls done done'
    have hdone : done.2.sent = [] ∧ areRefused done.1 = false := by decide +kernel
    have hdone' : done'.2.sent.length = 1 ∧ areRefused done'.1 = true := by decide +kernel
    exact ⟨hdone.1, hdone'.1, hdone.2, hdone'.2, hne hdone.2 hdone'.2⟩

end Provider

end SessionGate
