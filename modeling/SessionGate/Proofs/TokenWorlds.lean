import Mathlib.Data.List.Forall2
import SessionGate.Proofs.TwoRuns

/-!
# What depends on tokens

An access token and a refresh token are taken from an answer, put into a session and sent; nothing
that is decided or logged depends on them. So two worlds that differ at most in such tokens, in
those of sessions and in those of answers to come, go on to differ in nothing else:
`World.SameButTokens` is kept by the operations that trade grants for sessions.

There is one thing a refresh token decides: a text with surrogates cannot be sent. So a refresh with
two of them goes on in the same way if both can be written, or if they are the same,
`Json.SameOrPlain`.

A token is a text that is not empty. Whether a payload has one does make a difference, so
`Json.SameButToken` relates two values only if they are equal or both tokens.
-/

namespace SessionGate

open SessionGate.Action

/-! ## Values and payloads -/

/-- Two values that are the same, or both a token. -/
inductive Json.SameButToken : Json → Json → Prop where
  | same (v : Json) : SameButToken v v
  | tokens {t t' : Text} (ht : t ≠ .plain "") (ht' : t' ≠ .plain "") :
    SameButToken (.str t) (.str t')

namespace Json.SameButToken

variable {v v' : Json}

theorem isSet_eq (h : SameButToken v v') : v.isSet = v'.isSet := by
  cases h with
  | same => rfl
  | tokens ht ht' => rw [isSet, isSet, bne_iff_ne.mpr ht, bne_iff_ne.mpr ht']

theorem orElse {d d' : Json} (h : SameButToken v v') (hd : SameButToken d d') :
    SameButToken (v.orElse d) (v'.orElse d') := by
  rw [Json.orElse, Json.orElse, h.isSet_eq]
  split
  · exact h
  · exact hd

/-- Both are a token, or neither is. -/
theorem nonEmptyStr? (h : SameButToken v v') :
    Option.Rel (fun t t' ↦ SameButToken (.str t) (.str t')) v.nonEmptyStr? v'.nonEmptyStr? := by
  cases h with
  | same =>
    cases v.nonEmptyStr? with
    | none => exact .none
    | some t => exact .some (.same _)
  | tokens ht ht' =>
    rw [Json.nonEmptyStr?, Json.nonEmptyStr?, if_neg ht, if_neg ht']
    exact .some (.tokens ht ht')

end Json.SameButToken

/-- Two values that are the same, or texts without surrogates. -/
def Json.SameOrPlain (v v' : Json) : Prop :=
  v = v' ∨ ∃ t t' : String, v = .str t ∧ v' = .str t'

/-- A form can be written with the one if it can be with the other. -/
theorem Json.SameOrPlain.isSome_content? {v v' : Json} (h : v.SameOrPlain v')
    (e : TokenEndpoint) : (e.request (.refresh v')).content?.isSome =
      (e.request (.refresh v)).content?.isSome := by
  rcases h with rfl | ⟨t, t', rfl, rfl⟩
  · rfl
  · rw [Request.content?, Request.content?, Form.isSome_encode?, Form.isSome_encode?]
    rfl

def Members.tokenNames : List Text := ["access_token", "refresh_token"]

def Members.SameButTokens : Members → Members → Prop :=
  List.Forall₂ fun m m' ↦ m.1 = m'.1 ∧
    if m.1 ∈ tokenNames then m.2.SameButToken m'.2 else m.2 = m'.2

namespace Members.SameButTokens

variable {ms ms' : Members}

theorem refl (ms : Members) : SameButTokens ms ms :=
  List.forall₂_same.mpr fun m _ ↦ by
    refine ⟨rfl, ?_⟩
    split
    · exact .same _
    · rfl

theorem names_eq (h : ms.SameButTokens ms') : ms.names = ms'.names := by
  induction h with
  | nil => rfl
  | cons hm _ ih => exact congrArg₂ List.cons hm.1 ih

/-- A member is there in both or in neither, and the same unless it is a token. -/
theorem rel_get? (h : ms.SameButTokens ms') (name : Text) :
    Option.Rel (fun v v' ↦ if name ∈ tokenNames then v.SameButToken v' else v = v')
      (ms.get? name) (ms'.get? name) := by
  induction h with
  | nil => exact .none
  | @cons m m' rest rest' hm _ ih =>
    obtain ⟨n, v⟩ := m
    obtain ⟨n', v'⟩ := m'
    obtain ⟨hn, hvalue⟩ := hm
    obtain rfl : n = n' := hn
    rw [get?_cons, get?_cons]
    by_cases hname : name = n
    · rw [if_pos hname, if_pos hname]
      exact .some (hname ▸ hvalue)
    · rw [if_neg hname, if_neg hname]
      exact ih

theorem get?_eq (h : ms.SameButTokens ms') {name : Text} (hname : name ∉ tokenNames) :
    ms.get? name = ms'.get? name := by
  have hrel := h.rel_get? name
  simp only [if_neg hname] at hrel
  generalize ms.get? name = v at hrel ⊢
  generalize ms'.get? name = v' at hrel ⊢
  cases hrel with
  | none => rfl
  | some hv => rw [hv]

theorem get_eq (h : ms.SameButTokens ms') {name : Text} (hname : name ∉ tokenNames) :
    ms.get name = ms'.get name := by
  rw [Members.get, Members.get, h.get?_eq hname]

theorem get (h : ms.SameButTokens ms') {name : Text} (hname : name ∈ tokenNames) :
    (ms.get name).SameButToken (ms'.get name) := by
  have hrel := h.rel_get? name
  simp only [if_pos hname] at hrel
  rw [Members.get, Members.get]
  generalize ms.get? name = v at hrel ⊢
  generalize ms'.get? name = v' at hrel ⊢
  cases hrel with
  | none => exact .same _
  | some hv => exact hv

end Members.SameButTokens

/-! ## Answers that differ in tokens -/

structure TokenBundle.SameButTokens (b b' : TokenBundle) : Prop where
  accessToken : (Json.str b.accessToken).SameButToken (.str b'.accessToken)
  refreshToken : b.refreshToken.SameButToken b'.refreshToken
  expiry : b.expiry = b'.expiry
  extra : b.extra.SameButTokens b'.extra

theorem TokenBundle.SameButTokens.idToken?_eq {b b' : TokenBundle} (h : b.SameButTokens b') :
    b.idToken? = b'.idToken? := by
  rw [idToken?, idToken?, h.extra.get_eq (by decide)]

/-- Payloads that differ in tokens make bundles that do, or are refused in the same way. -/
theorem TokenBundle.agree_ofMembers {ms ms' : Members} (h : ms.SameButTokens ms')
    (receivedAt : Moment) :
    Agree SameButTokens (ofMembers ms receivedAt) (ofMembers ms' receivedAt) := by
  have haccess := (h.get (show .plain "access_token" ∈ Members.tokenNames by decide)).nonEmptyStr?
  have hrefresh := h.get (show .plain "refresh_token" ∈ Members.tokenNames by decide)
  rw [ofMembers, ofMembers, h.get_eq (show .plain "expires_in" ∉ Members.tokenNames by decide)]
  generalize (ms.get "access_token").nonEmptyStr? = token at haccess ⊢
  generalize (ms'.get "access_token").nonEmptyStr? = token' at haccess ⊢
  cases haccess with
  | none =>
    dsimp only
    rw [noAccessToken, noAccessToken, h.names_eq]
    exact .error _
  | some htoken =>
    refine (agree_refl _).bind ?_
    rintro seconds _ rfl
    refine (agree_refl _).bind ?_
    rintro expiry _ rfl
    exact .ok ⟨htoken, hrefresh.orElse (.same _), rfl, h⟩

/-- Two answers that are the same, or whose payloads differ at most in tokens. -/
inductive Response.SameButTokens : Response → Response → Prop where
  | same (r : Response) : SameButTokens r r
  | payload {status : Int} {body body' : Text.Bytes} {ms ms' : Members}
      (hbody : Json.ofBytes body = .ok (.obj ms)) (hbody' : Json.ofBytes body' = .ok (.obj ms'))
      (h : ms.SameButTokens ms') {cookies : List String} :
      SameButTokens ⟨status, body, cookies⟩ ⟨status, body', cookies⟩

namespace TokenEndpoint

theorem agree_payload {r r' : Response} (h : r.SameButTokens r') :
    Agree Members.SameButTokens (payload r) (payload r') := by
  cases h with
  | same =>
    cases payload r with
    | error fault => exact .error fault
    | ok ms => exact .ok (.refl ms)
  | payload hbody hbody' h =>
    rw [payload, payload, hbody, hbody']
    exact .ok h

theorem agree_read {r r' : Response} (h : r.SameButTokens r') (receivedAt : Moment) :
    Agree TokenBundle.SameButTokens (read r receivedAt) (read r' receivedAt) := by
  have hstatus : r.status = r'.status := by
    cases h with
    | same => rfl
    | payload => rfl
  refine (agree_payload h).bind fun ms ms' hms ↦ ?_
  have herror := hms.get?_eq (show .plain "error" ∉ Members.tokenNames by decide)
  have hdescription := hms.get?_eq (show .plain "error_description" ∉ Members.tokenNames by decide)
  rw [Members.has, Members.has, Members.get, Members.get, hstatus, herror, hdescription]
  split
  · exact .error _
  · have hbundle := TokenBundle.agree_ofMembers hms receivedAt
    generalize TokenBundle.ofMembers ms receivedAt = bundle at hbundle ⊢
    generalize TokenBundle.ofMembers ms' receivedAt = bundle' at hbundle ⊢
    cases hbundle with
    | ok h => exact .ok h
    | error failure => exact .error _

/-- What is logged about answers does not depend on tokens. -/
theorem report_eq {grant grant' : Grant} (hname : grant.name = grant'.name) (receivedAt : Moment)
    {reply reply' : Except NetworkFault Response}
    (h : Agree Response.SameButTokens reply reply') :
    report grant receivedAt reply = report grant' receivedAt reply' := by
  have hfield : grantField grant = grantField grant' := by rw [grantField, grantField, hname]
  cases h with
  | error fault => rw [report, report, hfield]
  | ok h =>
    have hread := agree_read h receivedAt
    rw [report, report]
    generalize read _ receivedAt = answer at hread ⊢
    generalize read _ receivedAt = answer' at hread ⊢
    cases hread with
    | error fault =>
      unfold entries
      rw [hfield]
    | ok h => rw [entries, entries, hfield, h.refreshToken.isSet_eq, h.idToken?_eq]

theorem agree_conclude (e : TokenEndpoint) (receivedAt : Moment)
    {reply reply' : Except NetworkFault Response}
    (h : Agree Response.SameButTokens reply reply') :
    Agree TokenBundle.SameButTokens (e.conclude receivedAt reply)
      (e.conclude receivedAt reply') := by
  cases h with
  | error fault => exact .error _
  | ok h => exact (agree_read h receivedAt).mapError _

end TokenEndpoint

/-! ## Sessions that differ in tokens -/

/-- Two sessions that differ at most in the access token and the refresh token. -/
structure Session.SameButTokens (s s' : Session) : Prop where
  accessToken : s.accessToken.SameButToken s'.accessToken
  refreshToken : s.refreshToken.SameButToken s'.refreshToken
  idToken : s.idToken = s'.idToken
  email : s.email = s'.email
  expiresOn : s.expiresOn = s'.expiresOn
  version : s.version = s'.version

namespace Session.SameButTokens

variable {s s' fresh fresh' : Session}

theorem refl (s : Session) : s.SameButTokens s :=
  ⟨.same _, .same _, rfl, rfl, rfl, rfl⟩

theorem replaced (h : s.SameButTokens s') (hfresh : fresh.SameButTokens fresh') :
    (s.replaced fresh).SameButTokens (s'.replaced fresh') :=
  ⟨hfresh.accessToken, hfresh.refreshToken, hfresh.idToken, hfresh.email, hfresh.expiresOn,
    congrArg (· + 1) h.version⟩

theorem carryOver (h : s.SameButTokens s') (hfresh : fresh.SameButTokens fresh') :
    (s.carryOver fresh).SameButTokens (s'.carryOver fresh') := by
  rw [Session.carryOver, Session.carryOver, hfresh.refreshToken.isSet_eq]
  split
  · exact hfresh
  · exact ⟨hfresh.accessToken, h.refreshToken, hfresh.idToken, hfresh.email, hfresh.expiresOn,
      hfresh.version⟩

end Session.SameButTokens

/-- Two pending refreshes that differ at most in the refresh token, which goes out from both or from
neither. -/
structure PendingRefresh.SameButToken (pending pending' : PendingRefresh) : Prop where
  version : pending.version = pending'.version
  expiresOn : pending.expiresOn = pending'.expiresOn
  refreshToken : pending.refreshToken.SameOrPlain pending'.refreshToken

theorem Session.agree_beginRefresh {s s' : Session} (h : s.SameButTokens s')
    (hsent : s.refreshToken.SameOrPlain s'.refreshToken) (now : Moment) :
    Agree (Option.Rel PendingRefresh.SameButToken) (s.beginRefresh now) (s'.beginRefresh now) := by
  have hneeds : s.needsRefresh now = s'.needsRefresh now := by
    rw [needsRefresh, needsRefresh, isExpired, isExpired, h.refreshToken.isSet_eq, h.expiresOn]
  rw [beginRefresh, beginRefresh, hneeds]
  cases s'.needsRefresh now with
  | error defect => exact .error defect
  | ok needed =>
    cases needed with
    | false => exact .ok .none
    | true => exact .ok (.some ⟨h.version, h.expiresOn, hsent⟩)

theorem PendingRefresh.agree_finish {pending pending' : PendingRefresh}
    {s s' fresh fresh' : Session} (hpending : pending.SameButToken pending')
    (h : s.SameButTokens s') (hfresh : fresh.SameButTokens fresh') :
    Agree Session.SameButTokens (pending.finish s fresh) (pending'.finish s' fresh') := by
  rw [finish, finish, Session.commit, Session.commit, hpending.version, h.version]
  split
  · exact .ok (h.replaced (h.carryOver hfresh))
  · exact .error _

/-- Bundles that differ in tokens make sessions that do. -/
theorem Provider.agree_project (p : Provider) {b b' : TokenBundle} (h : b.SameButTokens b')
    (now : Int) : Agree Session.SameButTokens (p.project now b) (p.project now b') := by
  rw [project, project, h.idToken?_eq]
  cases b'.idToken? with
  | none => exact .error _
  | some idToken =>
    dsimp only
    cases p.verifier.check now (.str idToken) with
    | error fault => exact .error _
    | ok claims =>
      dsimp only
      rw [sessionOf, sessionOf, h.expiry]
      cases hemail : (claims.get "email").nonEmptyStr? with
      | none => exact .error _
      | some email =>
        dsimp only
        split
        · by_cases hset : (Json.str email).isSet = true
          · simp only [Session.make, dif_pos hset]
            exact .ok ⟨h.accessToken, h.refreshToken, rfl, rfl, rfl, rfl⟩
          · simp only [Session.make, dif_neg hset]
            exact .error _
        · exact .error _

/-! ## Worlds that differ in tokens -/

/-- Two outcomes that are the same, or answers that differ at most in tokens. -/
inductive Outcome.SameButTokens : Outcome → Outcome → Prop where
  | same (o : Outcome) : SameButTokens o o
  | answered {r r' : Response} (h : r.SameButTokens r') :
      SameButTokens (.answered r) (.answered r')

/-- Two deliveries that differ at most in the tokens of their answers. -/
structure Delivery.SameButTokens (d d' : Delivery) : Prop where
  outcome : d.outcome.SameButTokens d'.outcome
  commits : d.commits = d'.commits
  advanceTo : d.advanceTo = d'.advanceTo

/-- Two lists of sessions that differ at most in tokens. -/
def Sessions.SameButTokens : Sessions → Sessions → Prop :=
  List.Forall₂ fun entry entry' ↦ entry.1 = entry'.1 ∧ entry.2.SameButTokens entry'.2

/-- Two worlds that differ at most in the tokens of sessions and of answers to come, and in what was
sent and kept for what is sent. -/
structure World.SameButTokens (w w' : World) : Prop where
  now : w.now = w'.now
  journal : w.journal = w'.journal
  collectors : w.collectors = w'.collectors
  policy : w.policy = w'.policy
  isClosed : w.isClosed = w'.isClosed
  deliveries : List.Forall₂ Delivery.SameButTokens w.deliveries w'.deliveries
  sessions : w.sessions.SameButTokens w'.sessions

namespace Sessions.SameButTokens

variable {ss ss' : Sessions}

theorem rel_get? (h : ss.SameButTokens ss') (name : String) :
    Option.Rel Session.SameButTokens (ss.get? name) (ss'.get? name) := by
  induction h with
  | nil => exact .none
  | @cons entry entry' rest rest' hentry _ ih =>
    obtain ⟨n, s⟩ := entry
    obtain ⟨n', s'⟩ := entry'
    obtain ⟨hn, hs⟩ := hentry
    obtain rfl : n = n' := hn
    rw [get?_cons, get?_cons]
    by_cases hname : name = n
    · rw [if_pos hname, if_pos hname]
      exact .some hs
    · rw [if_neg hname, if_neg hname]
      exact ih

theorem set (h : ss.SameButTokens ss') (name : String) {s s' : Session} (hs : s.SameButTokens s') :
    (ss.set name s).SameButTokens (ss'.set name s') := by
  induction h with
  | nil => exact .cons ⟨rfl, hs⟩ .nil
  | @cons entry entry' rest rest' hentry hrest ih =>
    obtain ⟨n, t⟩ := entry
    obtain ⟨n', t'⟩ := entry'
    obtain ⟨hn, ht⟩ := hentry
    obtain rfl : n = n' := hn
    rw [Sessions.set, Sessions.set]
    by_cases hname : n = name
    · rw [if_pos hname, if_pos hname]
      exact .cons ⟨rfl, hs⟩ hrest
    · rw [if_neg hname, if_neg hname]
      exact .cons ⟨rfl, ht⟩ ih

theorem agree_commit (h : ss.SameButTokens ss') (c : OtherCommit) :
    Agree SameButTokens (ss.commit c) (ss'.commit c) := by
  have hget := h.rel_get? c.name
  rw [commit, commit]
  generalize ss.get? c.name = s at hget ⊢
  generalize ss'.get? c.name = s' at hget ⊢
  cases hget with
  | none => exact .error _
  | some hs =>
    cases c.fresh with
    | error defect => exact .error _
    | ok fresh => exact .ok (h.set c.name (hs.replaced (.refl fresh)))

/-- Commits by others leave sessions that differ at most in tokens. -/
theorem commitAll (h : ss.SameButTokens ss') (cs : List OtherCommit) :
    (ss.commitAll cs).1 = (ss'.commitAll cs).1 ∧
      SameButTokens (ss.commitAll cs).2 (ss'.commitAll cs).2 := by
  induction cs generalizing ss ss' with
  | nil => exact ⟨rfl, h⟩
  | cons c cs ih =>
    have hcommit := h.agree_commit c
    rw [Sessions.commitAll, Sessions.commitAll]
    generalize ss.commit c = after at hcommit ⊢
    generalize ss'.commit c = after' at hcommit ⊢
    cases hcommit with
    | error defect => exact ⟨rfl, h⟩
    | ok hafter => exact ih hafter

end Sessions.SameButTokens

namespace World.SameButTokens

variable {w w' : World}

theorem write (h : w.SameButTokens w') (entries : List LogEntry) :
    (w.written entries).SameButTokens (w'.written entries) :=
  { h with journal := congrArg (entries.foldl Journal.write) h.journal }

theorem pass (h : w.SameButTokens w') {d d' : Delivery} (hd : d.SameButTokens d') :
    Agree Outcome.SameButTokens (w.pass d).1 (w'.pass d').1 ∧
      SameButTokens (w.pass d).2 (w'.pass d').2 := by
  obtain ⟨hdone, hsessions⟩ := h.sessions.commitAll d.commits
  rw [World.pass, World.pass, ← hd.commits, ← hd.advanceTo]
  generalize w.sessions.commitAll d.commits = committed at hdone hsessions ⊢
  generalize w'.sessions.commitAll d.commits = committed' at hdone hsessions ⊢
  obtain ⟨result, ss⟩ := committed
  obtain ⟨result', ss'⟩ := committed'
  obtain rfl : result = result' := hdone
  cases result with
  | error defect => exact ⟨.error _, { h with sessions := hsessions }⟩
  | ok _ =>
    exact ⟨.ok hd.outcome,
      { h with sessions := hsessions, now := congrArg d.advanceTo.getD h.now }⟩

theorem send (h : w.SameButTokens w') (r r' : Request) :
    Agree Outcome.SameButTokens (w.send r).1 (w'.send r').1 ∧
      SameButTokens (w.send r).2 (w'.send r').2 := by
  have hdeliveries := h.deliveries
  rw [World.send, World.send]
  generalize w.deliveries = ds at hdeliveries ⊢
  generalize w'.deliveries = ds' at hdeliveries ⊢
  cases hdeliveries with
  | nil => exact ⟨.ok (.same _), { h with deliveries := .nil }⟩
  | cons hfirst hrest =>
    have hnext : SameButTokens { w with sent := w.sent ++ [w.dress r], deliveries := _ }
        { w' with sent := w'.sent ++ [w'.dress r'], deliveries := _ } :=
      { h with deliveries := hrest }
    obtain ⟨houtcome, hafter⟩ := hnext.pass hfirst
    exact ⟨houtcome, { hafter with }⟩

end World.SameButTokens

/-! ## Operations on worlds that differ in tokens -/

/-- Two requests that differ in forms go to the same place. -/
theorem Action.alikeUpTo_send {r r' : Request} (h : r' = { r with form := r'.form })
    (hcontent : r'.content?.isSome = r.content?.isSome) :
    AlikeUpTo (Agree Response.SameButTokens) World.SameButTokens (Action.send r)
      (Action.send r') := by
  intro w w' hw
  rw [perform_send, perform_send, Request.destination_congr h hcontent, ← hw.isClosed]
  cases r.destination with
  | error defect => exact ⟨.error _, hw⟩
  | ok url =>
    obtain ⟨houtcome, hafter⟩ := hw.send (r.sentTo url) (r'.sentTo url)
    by_cases hclosed : w.isClosed = true
    · simp only [if_pos hclosed]
      exact ⟨.error _, hw⟩
    · simp only [if_neg hclosed]
      refine ⟨Agree.mapError _ (houtcome.bind fun o o' ho ↦ ?_), hafter⟩
      cases ho with
      | same =>
        cases o.reply url with
        | error defect => exact .error defect
        | ok reply =>
          cases reply with
          | error fault => exact .ok (.error fault)
          | ok response => exact .ok (.ok (.same response))
      | answered hresponse =>
        rw [Outcome.reply, Outcome.reply]
        split
        · exact .ok (.ok hresponse)
        · exact .error _

namespace Provider

variable (p : Provider)

theorem alike_now : Alike World.SameButTokens Action.now Action.now :=
  fun _ _ h ↦ ⟨.ok h.now, h⟩

theorem alike_logAll (entries : List LogEntry) :
    Alike World.SameButTokens (Action.logAll entries) (Action.logAll entries) :=
  fun _ _ h ↦ ⟨.ok rfl, h.write entries⟩

theorem alikeUpTo_exchange {grant grant' : Grant} (hname : grant.name = grant'.name)
    (hcontent : (p.data.tokenEndpoint.request grant').content?.isSome =
      (p.data.tokenEndpoint.request grant).content?.isSome) :
    AlikeUpTo TokenBundle.SameButTokens World.SameButTokens
      (p.data.tokenEndpoint.exchange grant) (p.data.tokenEndpoint.exchange grant') := by
  refine AlikeUpTo.bind (Action.alikeUpTo_send rfl hcontent) fun reply reply' hreply ↦ ?_
  refine AlikeUpTo.bind alike_now ?_
  rintro now _ rfl
  have hlog : Alike World.SameButTokens (Action.logAll (TokenEndpoint.report grant now reply))
      (Action.logAll (TokenEndpoint.report grant' now reply')) := by
    rw [TokenEndpoint.report_eq hname now hreply]
    exact alike_logAll _
  refine AlikeUpTo.bind hlog fun _ _ _ ↦ ?_
  exact alikeUpTo_of_results (perform_lift _) (perform_lift _)
    (p.data.tokenEndpoint.agree_conclude now hreply)

theorem alikeUpTo_createSession {b b' : TokenBundle} (h : b.SameButTokens b') :
    AlikeUpTo Session.SameButTokens World.SameButTokens (p.createSession b)
      (p.createSession b') := by
  intro w w' hw
  have hproject := p.agree_project h w.now.seconds
  rw [perform_createSession, perform_createSession, ← hw.now]
  generalize p.project w.now.seconds b = made at hproject ⊢
  generalize p.project w.now.seconds b' = made' at hproject ⊢
  cases hproject with
  | error fault => exact ⟨.error _, hw.write _⟩
  | ok hs => exact ⟨.ok hs, hw⟩

theorem alikeUpTo_trade {grant grant' : Grant} (hname : grant.name = grant'.name)
    (hcontent : (p.data.tokenEndpoint.request grant').content?.isSome =
      (p.data.tokenEndpoint.request grant).content?.isSome) (f : AccessError → AccessError) :
    AlikeUpTo Session.SameButTokens World.SameButTokens (p.trade grant f) (p.trade grant' f) :=
  ((p.alikeUpTo_exchange hname hcontent).mapError f).bind fun _ _ hb ↦
    (p.alikeUpTo_createSession hb).mapError updateError

theorem alikeUpTo_session (name : String) :
    AlikeUpTo Session.SameButTokens World.SameButTokens (Action.session name)
      (Action.session name) := by
  intro w w' hw
  have hget := hw.sessions.rel_get? name
  rw [perform_session, perform_session]
  generalize w.sessions.get? name = s at hget ⊢
  generalize w'.sessions.get? name = s' at hget ⊢
  cases hget with
  | none => exact ⟨.error _, hw⟩
  | some hs => exact ⟨.ok hs, hw⟩

/-- The sessions of a name have refresh tokens of which both can be sent, or neither. -/
def PostsAlike (w w' : World) (name : String) : Prop :=
  ∀ s s', w.sessions.get? name = some s → w'.sessions.get? name = some s' →
    s.refreshToken.SameOrPlain s'.refreshToken

theorem agree_session {w w' : World} (hw : w.SameButTokens w') {name : String}
    (hposts : PostsAlike w w' name) :
    Agree (fun s s' ↦ s.SameButTokens s' ∧ s.refreshToken.SameOrPlain s'.refreshToken)
      ((Action.session name).perform w).1 ((Action.session name).perform w').1 ∧
        ((Action.session name).perform w).2.SameButTokens
          ((Action.session name).perform w').2 := by
  have hget := hw.sessions.rel_get? name
  rw [PostsAlike] at hposts
  rw [perform_session, perform_session]
  generalize w.sessions.get? name = s at hget hposts ⊢
  generalize w'.sessions.get? name = s' at hget hposts ⊢
  cases hget with
  | none => exact ⟨.error _, hw⟩
  | some hs => exact ⟨.ok ⟨hs, hposts _ _ rfl rfl⟩, hw⟩

theorem alike_setSession (name : String) {s s' : Session} (h : s.SameButTokens s') :
    Alike World.SameButTokens (Action.setSession name s) (Action.setSession name s') :=
  fun _ _ hw ↦ ⟨.ok rfl, { hw with sessions := hw.sessions.set name h }⟩

theorem refreshedEntry_eq {s s' : Session} (h : s.SameButTokens s')
    (expiredOn expiresOn : Option String) :
    refreshedEntry s expiredOn expiresOn = refreshedEntry s' expiredOn expiresOn := by
  rw [refreshedEntry, refreshedEntry, h.email]

/-- A refresh goes on in the same way. -/
theorem agree_refreshIfNeeded {w w' : World} (hw : w.SameButTokens w') (name : Option String)
    (hposts : ∀ n ∈ name, PostsAlike w w' n) :
    Agree Eq ((p.refreshIfNeeded name).perform w).1 ((p.refreshIfNeeded name).perform w').1 ∧
      ((p.refreshIfNeeded name).perform w).2.SameButTokens
        ((p.refreshIfNeeded name).perform w').2 := by
  cases name with
  | none => exact alike_pure false w w' hw
  | some name =>
    -- only what is read first is posted: from there on the two worlds go the same way
    refine agree_perform_bind (agree_session hw (hposts name rfl)) fun before before' hboth ↦ ?_
    obtain ⟨hbefore, hsent⟩ := hboth
    refine AlikeUpTo.bind alike_now ?_
    rintro now _ rfl
    have hbegin := Session.agree_beginRefresh hbefore hsent now
    refine AlikeUpTo.bind (alikeUpTo_of_results (perform_liftDefect _) (perform_liftDefect _)
      (hbegin.mapError _)) fun begun begun' hbegun ↦ ?_
    cases hbegun with
    | none => exact alike_pure false
    | @some pending pending' hpending =>
      have htrade := p.alikeUpTo_trade
        (show (Grant.refresh pending.refreshToken).name =
          (Grant.refresh pending'.refreshToken).name from rfl)
        (hpending.refreshToken.isSome_content? p.data.tokenEndpoint) refreshError
      refine AlikeUpTo.bind htrade fun fresh fresh' hfresh ↦ ?_
      refine AlikeUpTo.bind (alikeUpTo_session name) fun landed landed' hlanded ↦ ?_
      have hfinish := PendingRefresh.agree_finish hpending hlanded hfresh
      generalize pending.finish landed fresh = finished at hfinish ⊢
      generalize pending'.finish landed' fresh' = finished' at hfinish ⊢
      cases hfinish with
      | error error => exact alike_refuse error
      | @ok after after' hafter =>
        dsimp only
        rw [hpending.expiresOn, hafter.expiresOn]
        refine (alike_setSession name hafter).bind fun _ ↦ (alike_liftDefect _).bind
          fun expiredOn ↦ (alike_liftDefect _).bind fun expiresOn ↦ ?_
        rw [refreshedEntry_eq hafter]
        exact (alike_logAll [_]).bind fun _ ↦ alike_pure true

end Provider

end SessionGate
