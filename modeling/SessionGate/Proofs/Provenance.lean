import SessionGate.Proofs.Trade

/-!
# Where credentials come from

A session says who somebody is, so all of what it says has to come from one source: a record that
somebody stored, or an answer of the token endpoint that was accepted. However sessions are made,
copied, refreshed and replaced, while requests are in flight or not, every state that a session is
ever in has one `Origin`: `Chronicle.run_provenance`.

## What a run is

A `Step` is one operation of a provider, or something that somebody else does to a session. A
request takes its `Flight` along: how it ends, and which commits others make meanwhile. What others
commit is read from a record, is made of an answer to another call, or is a state that some session
of the run has been in before.

A `Chronicle` is the world after some steps, with two lists that no operation looks at: the origins
there have been, and the states that sessions have been in, those in flight included.

## What carries the invariant

Nobody ever puts a part of one session together with a part of another, except that a refresh token
may be kept. So it is enough that what replaces a session has an origin.
-/

namespace SessionGate

/-! ## Origins -/

/-- Two sessions agree in what was issued at one time. A refresh token may be older. -/
structure Session.Agrees (s t : Session) : Prop where
  accessToken : s.accessToken = t.accessToken
  idToken : s.idToken = t.idToken
  email : s.email = t.email
  expiresOn : s.expiresOn = t.expiresOn

theorem Session.agrees_replaced (s fresh : Session) : (s.replaced fresh).Agrees fresh :=
  ⟨rfl, rfl, rfl, rfl⟩

/-- A fresh session keeps what it has but for its refresh token. -/
theorem Session.agrees_carryOver (s fresh : Session) : (s.carryOver fresh).Agrees fresh := by
  obtain ⟨haccess, hidToken, hemail⟩ := s.carryOver_kept fresh
  exact ⟨haccess, hidToken, hemail, s.carryOver_expiresOn fresh⟩

/-- Where the credentials of a session come from. -/
inductive Origin where
  /-- A record that was read. -/
  | record (data : Members)
  /-- The payload of an answer that was received at one moment and projected at another. -/
  | answer (payload : Members) (receivedAt projectedAt : Moment)

namespace Origin

/-- The session was made of a payload: it has the tokens that stand in it, it expires as the payload
says, and its email is the verified one of the identity token. -/
structure Projects (p : Provider) (payload : Members) (receivedAt projectedAt : Moment)
    (s : Session) : Prop where
  accessToken : payload.get? "access_token" = some s.accessToken
  idToken : payload.get? "id_token" = some s.idToken
  expiresOn : ∃ bundle, TokenBundle.ofMembers payload receivedAt = .ok bundle ∧
    s.expiresOn = Provider.expiryOf bundle
  email : ∃ claims email, p.verifier.check projectedAt.seconds s.idToken = .ok claims ∧
    claims.get? "email" = some (.str email) ∧ email ≠ "" ∧ s.email = .str email ∧
    (claims.get? "email_verified" = some (.bool true) ∨
      (claims.get? "email_verified" = none ∨ claims.get? "email_verified" = some .null) ∧
        p.data.requireEmailVerified = false)
  valid : ∀ w : World, w.now = projectedAt → ((p.validateSession s).perform w).1 = .ok true

/-- The session has all it has from this origin, up to its refresh token. -/
def Gives (p : Provider) (s : Session) : Origin → Prop
  | record data => ∃ t, Session.ofMembers data = .ok t ∧ s.Agrees t
  | answer payload receivedAt projectedAt => Projects p payload receivedAt projectedAt s

theorem gives_of_agrees {p : Provider} {s t : Session} {origin : Origin} (hst : s.Agrees t)
    (h : origin.Gives p t) : origin.Gives p s := by
  cases origin with
  | record data =>
    obtain ⟨u, hu, htu⟩ := h
    exact ⟨u, hu, hst.accessToken.trans htu.accessToken, hst.idToken.trans htu.idToken,
      hst.email.trans htu.email, hst.expiresOn.trans htu.expiresOn⟩
  | answer payload receivedAt projectedAt =>
    have hvalid : ∀ w,
        ((p.validateSession s).perform w).1 = ((p.validateSession t).perform w).1 := by
      intro w
      rw [Provider.perform_validateSession, Provider.perform_validateSession, hst.idToken]
    constructor
    · rw [hst.accessToken]
      exact h.accessToken
    · rw [hst.idToken]
      exact h.idToken
    · rw [hst.expiresOn]
      exact h.expiresOn
    · rw [hst.idToken, hst.email]
      exact h.email
    · intro w hw
      rw [hvalid]
      exact h.valid w hw

end Origin

/-- The email of a projection is a text that is not empty. -/
theorem Provider.email_of_project {p : Provider} {now : Int} {bundle : TokenBundle} {s : Session}
    {idToken : Text} {claims : Members} (h : p.project now bundle = .ok s)
    (hid : bundle.idToken? = some idToken)
    (hcheck : p.verifier.check now (.str idToken) = .ok claims) :
    ∃ email, claims.get "email" = .str email ∧ email ≠ "" := by
  rw [project_of_check hid hcheck, sessionOf] at h
  cases hemail : (claims.get "email").nonEmptyStr? with
  | none => rw [hemail] at h; cases h
  | some email => exact ⟨email, (Json.nonEmptyStr?_eq_some_iff _ _).mp hemail⟩

/-- When an email counts as verified. -/
theorem ProviderData.emailVerified_eq_true_iff {d : ProviderData} {claims : Members} :
    d.emailVerified claims = true ↔
      claims.get? "email_verified" = some (.bool true) ∨
        (claims.get? "email_verified" = none ∨ claims.get? "email_verified" = some .null) ∧
          d.requireEmailVerified = false := by
  rw [emailVerified, Members.get]
  cases claims.get? "email_verified" with
  | none => simp
  | some v => cases v <;> simp

/-- **A projection has its payload as its origin.** -/
theorem Origin.gives_of_project {p : Provider} {payload : Members} {receivedAt projectedAt : Moment}
    {bundle : TokenBundle} {s : Session}
    (hbundle : TokenBundle.ofMembers payload receivedAt = .ok bundle)
    (h : p.project projectedAt.seconds bundle = .ok s) :
    (Origin.answer payload receivedAt projectedAt).Gives p s := by
  obtain ⟨idToken, claims, hid, hcheck, hverified, haccess, hidToken, -, hexpires, hemail, -⟩ :=
    Provider.project_eq_ok h
  have hread := TokenBundle.ofMembers_eq_ok_iff.mp hbundle
  obtain ⟨email, hget, hne⟩ := Provider.email_of_project h hid hcheck
  have hclaims : claims.get? "email" = some (.str email) := Members.get?_of_get_str hget
  rw [TokenBundle.idToken?, hread.extra, Members.nonEmptyStr?_get_iff] at hid
  rw [← hidToken] at hcheck
  constructor
  · rw [haccess]
    exact hread.accessToken
  · rw [hidToken]
    exact hid.1
  · exact ⟨bundle, hbundle, hexpires⟩
  · exact ⟨claims, email, hcheck, hclaims, hne, hemail.trans hget,
      ProviderData.emailVerified_eq_true_iff.mp hverified⟩
  · intro w hw
    rw [Provider.validateSession_eq_ok_true_iff, hw]
    exact ⟨claims, hcheck⟩

/-- The session has its credentials from one of the origins. -/
def Traced (p : Provider) (origins : List Origin) (s : Session) : Prop :=
  ∃ origin ∈ origins, origin.Gives p s

namespace Traced

variable {p : Provider} {origins : List Origin} {s : Session}

theorem mono {more : List Origin} (h : Traced p origins s) (hsub : origins ⊆ more) :
    Traced p more s := by
  obtain ⟨origin, horigin, hgives⟩ := h
  exact ⟨origin, hsub horigin, hgives⟩

theorem of_agrees {t : Session} (h : Traced p origins t) (hst : s.Agrees t) :
    Traced p origins s := by
  obtain ⟨origin, horigin, hgives⟩ := h
  exact ⟨origin, horigin, Origin.gives_of_agrees hst hgives⟩

theorem replaced {fresh : Session} (h : Traced p origins fresh) (s : Session) :
    Traced p origins (s.replaced fresh) :=
  h.of_agrees (s.agrees_replaced fresh)

theorem carryOver {fresh : Session} (h : Traced p origins fresh) (s : Session) :
    Traced p origins (s.carryOver fresh) :=
  h.of_agrees (s.agrees_carryOver fresh)

end Traced

/-! ## What others bring -/

/-- A session that somebody brings. -/
inductive Replacement where
  /-- It is read from a record. -/
  | record (data : Members)
  /-- It is a copy of what some session has been before. -/
  | earlier (k : Nat)
  /-- It is made by another call, of the payload of another answer. -/
  | projected (payload : Members) (receivedAt projectedAt : Moment)

namespace Replacement

/-- The session, where `seen` is what sessions have been so far. -/
def session (p : Provider) (seen : List Session) : Replacement → Except Defect Session
  | record data => Session.ofMembers data
  | earlier k =>
    match seen[k]? with
    | some s => .ok s
    | none => .error .noSession
  | projected payload receivedAt projectedAt =>
    match TokenBundle.ofMembers payload receivedAt with
    | .error _ => .error .noSession
    | .ok bundle => (p.project projectedAt.seconds bundle).mapError fun _ ↦ .noSession

/-- The origins that come up with the session. A payload is one if it is accepted. -/
def origins : Replacement → List Origin
  | record data => [.record data]
  | earlier _ => []
  | projected payload receivedAt projectedAt =>
    match TokenBundle.ofMembers payload receivedAt with
    | .ok _ => [.answer payload receivedAt projectedAt]
    | .error _ => []

variable {p : Provider} {origins : List Origin} {seen : List Session} {r : Replacement}
  {s : Session}

theorem traced (hseen : ∀ s ∈ seen, Traced p origins s) (hsub : r.origins ⊆ origins)
    (h : r.session p seen = .ok s) : Traced p origins s := by
  cases r with
  | record data => exact ⟨_, hsub (List.mem_singleton.mpr rfl), s, h, rfl, rfl, rfl, rfl⟩
  | earlier k =>
    rw [session] at h
    cases hk : seen[k]? with
    | none => rw [hk] at h; cases h
    | some t =>
      rw [hk] at h
      cases h
      exact hseen _ (List.mem_of_getElem? hk)
  | projected payload receivedAt projectedAt =>
    rw [session] at h
    rw [Replacement.origins] at hsub
    cases hbundle : TokenBundle.ofMembers payload receivedAt with
    | error failure => rw [hbundle] at h; cases h
    | ok bundle =>
      rw [hbundle] at h hsub
      exact ⟨_, hsub (List.mem_singleton.mpr rfl),
        Origin.gives_of_project hbundle (mapError_eq_ok_iff.mp h)⟩

theorem traced_of_mem (hseen : ∀ s ∈ seen, Traced p origins s) (hsub : r.origins ⊆ origins)
    (hs : s ∈ (r.session p seen).toOption.toList) : Traced p origins s := by
  rw [Option.mem_toList, toOption_eq_some_iff] at hs
  exact traced hseen hsub hs

end Replacement

/-! ## Requests -/

/-- What happens to a request: how it ends, and what others commit and how time passes before. -/
structure Flight where
  outcome : Outcome
  commits : List (String × Replacement) := []
  advanceTo : Option Moment := none

namespace Flight

def delivery (f : Flight) (p : Provider) (seen : List Session) : Delivery where
  outcome := f.outcome
  commits := f.commits.map fun c ↦ ⟨c.1, c.2.session p seen⟩
  advanceTo := f.advanceTo

/-- Whether the request for a grant goes out and takes its delivery. -/
def isSent (p : Provider) (w : World) (grant : Grant) : Bool :=
  ((p.data.tokenEndpoint.exchange grant).perform w).2.deliveries.isEmpty

/-- The origins that come up in a flight: the records that others read, and the answer, if it is
accepted. -/
def origins (f : Flight) (p : Provider) (w : World) (grant : Grant) : List Origin :=
  (if isSent p w grant then f.commits.flatMap fun c ↦ c.2.origins else []) ++
    match (p.data.tokenEndpoint.exchange grant).perform w with
    | (.ok bundle, after) => [.answer bundle.extra after.now after.now]
    | (.error _, _) => []

/-- The session that is made of the answer, if one is. -/
def made (p : Provider) (w : World) (grant : Grant) : List Session :=
  match (p.data.tokenEndpoint.exchange grant).perform w with
  | (.ok bundle, after) => (p.project after.now.seconds bundle).toOption.toList
  | (.error _, _) => []

/-- What sessions are in a flight: those of the world from commit to commit, those that others
bring, and the one that is made of the answer. -/
def states (f : Flight) (p : Provider) (w : World) (grant : Grant) (seen : List Session) :
    List Session :=
  (if isSent p w grant then
      ((w.sessions.states (f.delivery p seen).commits).flatMap fun state ↦ state.map Prod.snd) ++
        f.commits.flatMap fun c ↦ (c.2.session p seen).toOption.toList
    else []) ++ made p w grant

section Flight

variable {f : Flight} {p : Provider} {w : World} {grant : Grant} {seen : List Session}
  {origins : List Origin}

/-- The session that is made of an answer has the answer as its origin. -/
theorem traced_of_project {bundle : TokenBundle} {after : World} {fresh : Session}
    (hsub : f.origins p w grant ⊆ origins)
    (h : (p.data.tokenEndpoint.exchange grant).perform w = (.ok bundle, after))
    (hproject : p.project after.now.seconds bundle = .ok fresh) : Traced p origins fresh := by
  have hmem : Origin.answer bundle.extra after.now after.now ∈ f.origins p w grant := by
    rw [Flight.origins, h]
    exact List.mem_append_right _ (List.mem_singleton.mpr rfl)
  exact ⟨_, hsub hmem, Origin.gives_of_project
    (TokenEndpoint.ofMembers_of_exchange _ _ h) hproject⟩

theorem traced_of_made {s : Session} (hsub : f.origins p w grant ⊆ origins)
    (hs : s ∈ made p w grant) : Traced p origins s := by
  unfold made at hs
  rcases hexchange : (p.data.tokenEndpoint.exchange grant).perform w with
    ⟨failure | bundle, after⟩
  · rw [hexchange] at hs
    cases hs
  · rw [hexchange, Option.mem_toList, toOption_eq_some_iff] at hs
    exact traced_of_project hsub hexchange hs

/-- What is left of the sessions when others have committed in a flight. -/
theorem traced_of_commits (hcommits : (f.commits.flatMap fun c ↦ c.2.origins) ⊆ origins)
    (hseen : ∀ s ∈ seen, Traced p origins s) (hw : w.sessions.All (Traced p origins)) :
    ∀ state ∈ w.sessions.states (f.delivery p seen).commits, state.All (Traced p origins) := by
  refine hw.states (fun s fresh hfresh ↦ hfresh.replaced s) fun c hc fresh hfresh ↦ ?_
  obtain ⟨⟨name, r⟩, hr, rfl⟩ := List.mem_map.mp hc
  exact Replacement.traced hseen
    (fun o ho ↦ hcommits (List.mem_flatMap_of_mem hr ho)) hfresh

/-- **What one flight keeps.** If the sessions before it can be traced, so can those in it and those
it leaves. -/
theorem traced (hd : w.deliveries = [f.delivery p seen]) (hsub : f.origins p w grant ⊆ origins)
    (hseen : ∀ s ∈ seen, Traced p origins s) (hw : w.sessions.All (Traced p origins)) :
    (∀ s ∈ f.states p w grant seen, Traced p origins s) ∧
      ((p.data.tokenEndpoint.exchange grant).perform w).2.sessions.All (Traced p origins) := by
  rcases p.data.tokenEndpoint.passes_exchange grant w with
    ⟨hdeliveries, hsessions⟩ | ⟨d, rest, hnext, hrest, hsessions⟩
  · have hsent : ¬isSent p w grant = true := by
      rw [isSent, hdeliveries, hd]
      exact Bool.false_ne_true
    -- the request did not go out, so nobody has committed anything
    rw [hsessions, states, if_neg hsent, List.nil_append]
    exact ⟨fun s hs ↦ traced_of_made hsub hs, hw⟩
  · obtain ⟨rfl, rfl⟩ := List.cons.inj (hd.symm.trans hnext)
    have hsent : isSent p w grant = true := by
      rw [isSent, hrest]
      rfl
    have hcommits : (f.commits.flatMap fun c ↦ c.2.origins) ⊆ origins := by
      intro o ho
      refine hsub (List.mem_append_left _ ?_)
      rw [if_pos hsent]
      exact ho
    have hstates := traced_of_commits hcommits hseen hw
    rw [hsessions, states, if_pos hsent]
    refine ⟨fun s hs ↦ ?_, hstates _ (Sessions.commitAll_mem_states _)⟩
    rw [List.mem_append, List.mem_append] at hs
    rcases hs with (hs | hs) | hs
    · obtain ⟨state, hstate, hs⟩ := List.mem_flatMap.mp hs
      obtain ⟨entry, hentry, rfl⟩ := List.mem_map.mp hs
      exact hstates state hstate entry hentry
    · obtain ⟨c, hc, hs⟩ := List.mem_flatMap.mp hs
      exact Replacement.traced_of_mem hseen
        (fun o ho ↦ hcommits (List.mem_flatMap_of_mem hc ho)) hs
    · exact traced_of_made hsub hs

end Flight

end Flight

/-! ## Steps -/

inductive Step where
  /-- A session is put under a name. -/
  | put (name : String) (fresh : Replacement)
  /-- Somebody commits to a session. -/
  | commit (name : String) (fresh : Replacement) (expected : Json)
  /-- The payload of an answer is read and projected. -/
  | project (name : String) (payload : Members) (receivedAt : Option Moment)
  | redeem (name : String) (redirectUrl code : Text) (flight : Flight)
  /-- A fresh session in place of one is put under a name. -/
  | refresh (name : String) (on : Option String) (flight : Flight)
  | refreshInPlace (on : Option String) (flight : Flight)
  | clock (now : Moment)

namespace Step

/-- The step as an operation on the world. -/
def act (p : Provider) (seen : List Session) : Step → Action Unit
  | put name fresh => do
    let s ← Action.liftDefect (fresh.session p seen)
    Action.setSession name s
  | commit name fresh expected => do
    let fresh ← Action.liftDefect (fresh.session p seen)
    match (← Action.session name).commit fresh expected with
    | .error error => Action.refuse error
    | .ok after => Action.setSession name after
  | project name payload receivedAt => do
    let now ← Action.now
    let bundle ← Action.lift (TokenBundle.ofMembers payload (receivedAt.getD now))
    let s ← p.createSession bundle
    Action.setSession name s
  | redeem name redirectUrl code _ => do
    let s ← p.redeem redirectUrl code
    Action.setSession name s
  | refresh name on _ => do
    match ← p.refreshSession on with
    | none => return ()
    | some s => Action.setSession name s
  | refreshInPlace on _ => do
    let _ ← p.refreshIfNeeded on
  | clock now => modify fun w ↦ { w with now }

def flight? : Step → Option Flight
  | redeem _ _ _ flight => some flight
  | refresh _ _ flight => some flight
  | refreshInPlace _ flight => some flight
  | _ => none

/-- The grant that a step trades, if it does, and the flight of its request. -/
def trade? (w : World) : Step → Option (Grant × Flight)
  | redeem _ redirectUrl code flight => some (.code code redirectUrl, flight)
  | refresh _ on flight =>
    (w.pending? on).map fun pending ↦ (.refresh pending.refreshToken, flight)
  | refreshInPlace on flight =>
    (w.pending? on).map fun pending ↦ (.refresh pending.refreshToken, flight)
  | _ => none

/-- The origins that come up in a step. A payload is one if it is accepted. -/
def origins (p : Provider) (w : World) : Step → List Origin
  | put _ fresh => fresh.origins
  | commit _ fresh _ => fresh.origins
  | project _ payload receivedAt =>
    match TokenBundle.ofMembers payload (receivedAt.getD w.now) with
    | .ok _ => [.answer payload (receivedAt.getD w.now) w.now]
    | .error _ => []
  | e => ((e.trade? w).map fun (grant, flight) ↦ flight.origins p w grant).getD []

/-- What sessions are in the course of a step, and what is made or read in it. -/
def states (p : Provider) (w : World) (seen : List Session) : Step → List Session
  | put _ fresh => (fresh.session p seen).toOption.toList
  | commit _ fresh _ => (fresh.session p seen).toOption.toList
  | e => ((e.trade? w).map fun (grant, flight) ↦ flight.states p w grant seen).getD []

section Step

variable {p : Provider} {w : World} {seen : List Session} {origins : List Origin}

/-- What a trade leaves and makes can be traced. -/
theorem traced_of_trade {grant : Grant} {flight : Flight} (f : AccessError → AccessError)
    (hd : w.deliveries = [flight.delivery p seen]) (hsub : flight.origins p w grant ⊆ origins)
    (hseen : ∀ s ∈ seen, Traced p origins s) (hw : w.sessions.All (Traced p origins)) :
    ((p.trade grant f).perform w).2.sessions.All (Traced p origins) ∧
      ∀ fresh, ((p.trade grant f).perform w).1 = .ok fresh → Traced p origins fresh := by
  constructor
  · rw [Provider.trade_sessions]
    exact (Flight.traced hd hsub hseen hw).2
  · intro fresh h
    obtain ⟨bundle, after, hexchange, hproject⟩ := Provider.project_of_trade h
    exact Flight.traced_of_project hsub hexchange hproject

/-- A session is put in its place after the trade that made it. -/
theorem traced_of_redeem {name : String} {redirectUrl code : Text} {flight : Flight}
    (hleft : ((p.redeem redirectUrl code).perform w).2.sessions.All (Traced p origins))
    (hmade : ∀ fresh, ((p.redeem redirectUrl code).perform w).1 = .ok fresh →
      Traced p origins fresh) :
    (((redeem name redirectUrl code flight).act p seen).perform w).2.sessions.All
      (Traced p origins) := by
  simp only [act, Action.perform_bind]
  rcases hredeem : (p.redeem redirectUrl code).perform w with ⟨failure | fresh, after⟩
  · rw [hredeem] at hleft
    exact hleft
  · rw [hredeem] at hleft hmade
    exact hleft.set name (hmade fresh rfl)

/-- A fresh session is the one that its trade has made, up to the refresh token it carries over. -/
theorem traced_of_refresh {name : String} {on : Option String} {flight : Flight}
    {pending : PendingRefresh} (hpending : w.pending? on = some pending)
    (hleft : ((p.redeemRefresh pending).perform w).2.sessions.All (Traced p origins))
    (hmade : ∀ fresh, ((p.redeemRefresh pending).perform w).1 = .ok fresh →
      Traced p origins fresh) :
    (((refresh name on flight).act p seen).perform w).2.sessions.All (Traced p origins) := by
  obtain ⟨n, hperform⟩ := @Provider.perform_refreshSession_of_some p _ _ _ hpending
  simp only [act, Action.perform_bind]
  rw [hperform]
  rcases hredeem : (p.redeemRefresh pending).perform w with ⟨failure | fresh, after⟩
  · rw [hredeem] at hleft
    exact hleft
  · rw [hredeem] at hleft hmade
    simp only
    cases after.sessions.get? n with
    | none => exact hleft
    | some t => exact hleft.set name ((hmade fresh rfl).carryOver t)

/-- Nothing is left to do after a refresh in place. -/
theorem perform_act_refreshInPlace (on : Option String) (flight : Flight) :
    (((refreshInPlace on flight).act p seen).perform w).2 =
      ((p.refreshIfNeeded on).perform w).2 := by
  rw [act, Action.perform_bind]
  rcases (p.refreshIfNeeded on).perform w with ⟨failure | refreshed, after⟩ <;> rfl

/-- A session that is refreshed in place is replaced by what the trade has made. -/
theorem traced_of_refreshInPlace {on : Option String} {flight : Flight} {pending : PendingRefresh}
    (hpending : w.pending? on = some pending)
    (hleft : ((p.redeemRefresh pending).perform w).2.sessions.All (Traced p origins))
    (hmade : ∀ fresh, ((p.redeemRefresh pending).perform w).1 = .ok fresh →
      Traced p origins fresh) :
    (((refreshInPlace on flight).act p seen).perform w).2.sessions.All (Traced p origins) := by
  obtain ⟨n, hsessions⟩ := @Provider.refreshIfNeeded_sessions_of_some p _ _ _ hpending
  rw [perform_act_refreshInPlace, hsessions]
  rcases hredeem : (p.redeemRefresh pending).perform w with ⟨failure | fresh, after⟩
  · rw [hredeem] at hleft
    exact hleft
  · rw [hredeem] at hleft hmade
    simp only
    cases hrenewed : (after.sessions.get? n).bind fun t ↦ (pending.finish t fresh).toOption with
    | none => exact hleft
    | some renewed =>
      obtain ⟨t, -, hfinish⟩ := Option.bind_eq_some_iff.mp hrenewed
      -- others may have committed to the session since, but all of it is replaced
      have heq := Session.eq_replaced_of_commit (toOption_eq_some_iff.mp hfinish)
      have hcarried : Traced p origins (t.carryOver fresh) := (hmade fresh rfl).carryOver t
      exact hleft.set n (heq ▸ hcarried.replaced t)

/-- **What one step keeps.** If the sessions before it can be traced, so can those after it and
those in its course, with the origins that have come up in it. -/
theorem traced (e : Step)
    (hd : w.deliveries = (e.flight?.map fun flight ↦ flight.delivery p seen).toList)
    (hsub : e.origins p w ⊆ origins) (hseen : ∀ s ∈ seen, Traced p origins s)
    (hw : w.sessions.All (Traced p origins)) :
    ((e.act p seen).perform w).2.sessions.All (Traced p origins) ∧
      ∀ s ∈ e.states p w seen, Traced p origins s := by
  cases e with
  | put name fresh =>
    refine ⟨?_, fun s hs ↦ Replacement.traced_of_mem hseen hsub hs⟩
    simp only [act, Action.perform_bind, Action.perform_liftDefect]
    cases hfresh : fresh.session p seen with
    | error defect => exact hw
    | ok s => exact hw.set name (Replacement.traced hseen hsub hfresh)
  | commit name fresh expected =>
    refine ⟨?_, fun s hs ↦ Replacement.traced_of_mem hseen hsub hs⟩
    simp only [act, Action.perform_bind, Action.perform_liftDefect, Action.perform_session]
    cases hfresh : fresh.session p seen with
    | error defect => exact hw
    | ok t =>
      simp only [mapError_ok]
      cases hs : w.sessions.get? name with
      | none => exact hw
      | some s =>
        simp only
        cases hcommit : s.commit t expected with
        | error error => exact hw
        | ok after =>
          have ht : Traced p origins t := Replacement.traced hseen hsub hfresh
          rw [Session.eq_replaced_of_commit hcommit]
          exact hw.set name (ht.replaced s)
  | project name payload receivedAt =>
    refine ⟨?_, fun s hs ↦ nomatch hs⟩
    simp only [act, Action.perform_bind, Action.perform_now, Action.perform_lift]
    rw [Step.origins] at hsub
    cases hbundle : TokenBundle.ofMembers payload (receivedAt.getD w.now) with
    | error failure => exact hw
    | ok bundle =>
      rw [hbundle] at hsub
      simp only [Provider.perform_createSession]
      cases hproject : p.project w.now.seconds bundle with
      | error fault => exact hw
      | ok s =>
        exact hw.set name ⟨_, hsub (List.mem_singleton.mpr rfl),
          Origin.gives_of_project hbundle hproject⟩
  | redeem name redirectUrl code flight =>
    have hsub' : flight.origins p w (.code code redirectUrl) ⊆ origins := hsub
    obtain ⟨hleft, hmade⟩ := traced_of_trade Provider.redeemError hd hsub' hseen hw
    rw [← Provider.redeem_eq_trade] at hleft hmade
    exact ⟨traced_of_redeem hleft hmade, (Flight.traced hd hsub' hseen hw).1⟩
  | refresh name on flight =>
    cases hpending : w.pending? on with
    | none =>
      refine ⟨?_, fun s hs ↦ by simp [states, trade?, hpending] at hs⟩
      obtain ⟨result, hperform, hresult⟩ :=
        @Provider.perform_refreshSession_of_none p _ _ hpending
      simp only [act, Action.perform_bind]
      rw [hperform]
      rcases result with failure | _ | s
      · exact hw
      · exact hw
      · exact absurd rfl (hresult s)
    | some pending =>
      simp only [Step.origins, states, trade?, hpending, Option.map_some, Option.getD_some]
        at hsub ⊢
      obtain ⟨hleft, hmade⟩ := traced_of_trade Provider.refreshError hd hsub hseen hw
      rw [← Provider.redeemRefresh_eq_trade] at hleft hmade
      exact ⟨traced_of_refresh hpending hleft hmade, (Flight.traced hd hsub hseen hw).1⟩
  | refreshInPlace on flight =>
    cases hpending : w.pending? on with
    | none =>
      refine ⟨?_, fun s hs ↦ by simp [states, trade?, hpending] at hs⟩
      rw [perform_act_refreshInPlace, Provider.perform_refreshIfNeeded_of_none hpending]
      exact hw
    | some pending =>
      simp only [Step.origins, states, trade?, hpending, Option.map_some, Option.getD_some]
        at hsub ⊢
      obtain ⟨hleft, hmade⟩ := traced_of_trade Provider.refreshError hd hsub hseen hw
      rw [← Provider.redeemRefresh_eq_trade] at hleft hmade
      exact ⟨traced_of_refreshInPlace hpending hleft hmade, (Flight.traced hd hsub hseen hw).1⟩
  | clock now => exact ⟨hw, fun s hs ↦ nomatch hs⟩

end Step

end Step

/-! ## Runs -/

/-- A world, with the origins that have come up and the states that sessions have been in. -/
structure Chronicle where
  world : World
  origins : List Origin := []
  seen : List Session := []

namespace Chronicle

/-- The world a step finds. Its request, if it sends one, goes as its flight says. -/
def before (p : Provider) (σ : Chronicle) (e : Step) : World :=
  { σ.world with deliveries := (e.flight?.map fun flight ↦ flight.delivery p σ.seen).toList }

def step (p : Provider) (σ : Chronicle) (e : Step) : Chronicle :=
  let w := σ.before p e
  let after := ((e.act p σ.seen).perform w).2
  { world := after
    origins := σ.origins ++ e.origins p w
    seen := σ.seen ++ e.states p w σ.seen ++ after.sessions.map Prod.snd }

/-- The chronicle of steps that begin in a world without sessions. -/
def run (p : Provider) (w : World) (es : List Step) : Chronicle :=
  es.foldl (step p) { world := { w with sessions := [] } }

theorem run_concat (p : Provider) (w : World) (es : List Step) (e : Step) :
    run p w (es ++ [e]) = (run p w es).step p e := by
  rw [run, List.foldl_append]
  rfl

/-- Whatever a session has been can be traced. -/
structure Sound (p : Provider) (σ : Chronicle) : Prop where
  seen : ∀ s ∈ σ.seen, Traced p σ.origins s
  sessions : σ.world.sessions.All (Traced p σ.origins)

variable {p : Provider} {σ : Chronicle}

theorem sound_start (p : Provider) (w : World) :
    Sound p { world := { w with sessions := [] } } where
  seen _ h := nomatch h
  sessions := Sessions.all_nil

theorem Sound.step (h : σ.Sound p) (e : Step) : (σ.step p e).Sound p := by
  have hold : σ.origins ⊆ (σ.step p e).origins := List.subset_append_left _ _
  have hnew : e.origins p (σ.before p e) ⊆ (σ.step p e).origins := List.subset_append_right _ _
  have hseen : ∀ s ∈ σ.seen, Traced p (σ.step p e).origins s :=
    fun s hs ↦ (h.seen s hs).mono hold
  obtain ⟨hafter, hstates⟩ := @Step.traced p (σ.before p e) σ.seen _ e rfl hnew hseen
    (fun entry hentry ↦ (h.sessions entry hentry).mono hold)
  refine ⟨fun s hs ↦ ?_, hafter⟩
  rcases List.mem_append.mp hs with hs | hs
  · rcases List.mem_append.mp hs with hs | hs
    · exact hseen s hs
    · exact hstates s hs
  · obtain ⟨entry, hentry, rfl⟩ := List.mem_map.mp hs
    exact hafter entry hentry

theorem Sound.foldl (h : σ.Sound p) (es : List Step) : (es.foldl (Chronicle.step p) σ).Sound p := by
  induction es generalizing σ with
  | nil => exact h
  | cons e es ih => exact ih (h.step e)

/-- What a session is after a step is among what sessions have been. -/
theorem mem_seen_of_get? {e : Step} {name : String} {s : Session}
    (h : (σ.step p e).world.sessions.get? name = some s) : s ∈ (σ.step p e).seen := by
  have hall : (σ.step p e).world.sessions.All (· ∈ (σ.step p e).seen) :=
    fun entry hentry ↦ List.mem_append_right _ (List.mem_map_of_mem hentry)
  exact hall.of_get? h

theorem world_step_refreshInPlace (on : Option String) (flight : Flight) :
    (σ.step p (.refreshInPlace on flight)).world =
      ((p.refreshIfNeeded on).perform (σ.before p (.refreshInPlace on flight))).2 :=
  Step.perform_act_refreshInPlace on flight

/-- **Credentials are never mixed.** Every state that a session is in, in a run of any length, has
all it has, up to its refresh token, from one record or from one answer that was accepted in the
run. A session from an answer is valid in the moment in which it was made. -/
theorem run_provenance (p : Provider) (w : World) (es : List Step) :
    ∀ s ∈ (run p w es).seen, ∃ origin ∈ (run p w es).origins, origin.Gives p s :=
  ((sound_start p w).foldl es).seen

end Chronicle

/-! ## A session that is stored and refreshed -/

def sampleRecord : Members :=
  [("access_token", .str "access"), ("id_token", .str bareToken),
    ("refresh_token", .str "refresh"), ("email", .str "a@b")]

/-- A session is read from its record and refreshed. -/
def sampleSteps : List Step :=
  [.put "s" (.record sampleRecord),
    .refreshInPlace (some "s") { outcome := .answered sampleAnswer }]

/-- A refresh that says so leaves a session of the next version. -/
theorem Provider.renewed_of_refreshed {p : Provider} {name : String} {w : World} {s : Session}
    (h : w.sessions.get? name = some s)
    (htrue : ((p.refreshIfNeeded (some name)).perform w).1 = .ok true) :
    ∃ renewed, ((p.refreshIfNeeded (some name)).perform w).2.sessions.get? name = some renewed ∧
      renewed.version = s.version + 1 := by
  obtain ⟨entries, hperform⟩ := p.perform_refreshIfNeeded h
  rw [hperform] at htrue ⊢
  rcases hbegin : s.beginRefresh w.now with defect | _ | pending
  · simp [hbegin] at htrue
  · simp [hbegin] at htrue
  · simp only [hbegin] at htrue ⊢
    cases hpost : p.post pending w.isClosed with
    | error defect => simp [hpost] at htrue
    | ok url =>
      simp only [hpost] at htrue ⊢
      generalize w.send ((p.grantRequest pending).sentTo url) = sent at htrue ⊢
      cases hrenewed : p.receive sent.2.now url sent.1 >>= p.renew sent.2.now with
      | error failure => simp [hrenewed] at htrue
      | ok fresh =>
        simp only [hrenewed] at htrue ⊢
        rw [PendingRefresh.finish_eq] at htrue ⊢
        by_cases hversion : pending.version = (s.after (w.inFlight name)).version
        · have hread : pending.version = s.version := by
            rw [(Session.beginRefresh_eq_some_iff.mp hbegin).2]
          rw [if_pos hversion]
          refine ⟨_, Sessions.get?_set_self _ _ _, ?_⟩
          rw [Session.replaced, ← hversion, hread]
        · simp [hversion] at htrue

namespace Chronicle

theorem run_provenance_sampleSteps :
    ∃ s ∈ (run sampleProvider { now := sampleMoment } sampleSteps).seen, s.version = 1 ∧
      ∃ origin ∈ (run sampleProvider { now := sampleMoment } sampleSteps).origins,
        origin.Gives sampleProvider s := by
  have hs : sampleWorld.sessions.get? "s" = some (sampleSession bareToken) := rfl
  obtain ⟨renewed, hget, hversion⟩ := Provider.renewed_of_refreshed hs Provider.sample_refreshed
  -- the second step finds the world of the sample
  let σ := run sampleProvider { now := sampleMoment } [.put "s" (.record sampleRecord)]
  let flight : Flight := { outcome := .answered sampleAnswer }
  have hbefore : σ.before sampleProvider (.refreshInPlace (some "s") flight) = sampleWorld := rfl
  have hseen : renewed ∈ (run sampleProvider { now := sampleMoment } sampleSteps).seen := by
    rw [sampleSteps, ← List.singleton_append, run_concat]
    refine @mem_seen_of_get? _ _ _ "s" _ ?_
    rw [world_step_refreshInPlace, hbefore]
    exact hget
  exact ⟨renewed, hseen, hversion, run_provenance sampleProvider _ sampleSteps renewed hseen⟩

end Chronicle

end SessionGate
