import SessionGate.Proofs.Bundles

/-!
# Trading a grant for a session

`Provider.redeem` and `Provider.redeemRefresh` differ in their grant and in the error of a grant
that is refused. What they have in common is `Provider.trade`: an exchange, and a projection of the
bundle it brings.

## What it does to sessions

A trade makes a session and puts it nowhere; the two refreshes begin with one. What happens to the
sessions that are there happens while its request is in flight: `Sessions.states` lists what they
are after each of the commits by others, and `World.Passes` says that what is left is the last of
them.
-/

namespace SessionGate

/-! ## All sessions -/

namespace Sessions

def All (P : Session → Prop) (ss : Sessions) : Prop :=
  ∀ entry ∈ ss, P entry.2

variable {P : Session → Prop} {ss : Sessions}

theorem all_nil : All P [] :=
  fun _ h ↦ (nomatch h)

theorem all_cons_iff {n : String} {t : Session} {rest : Sessions} :
    All P ((n, t) :: rest) ↔ P t ∧ All P rest :=
  List.forall_mem_cons

theorem All.of_get? {name : String} {s : Session} (h : ss.All P) (hs : ss.get? name = some s) :
    P s := by
  induction ss with
  | nil => cases hs
  | cons entry rest ih =>
    obtain ⟨n, t⟩ := entry
    obtain ⟨ht, hrest⟩ := all_cons_iff.mp h
    rw [get?_cons] at hs
    by_cases hn : name = n
    · rw [if_pos hn] at hs
      cases hs
      exact ht
    · rw [if_neg hn] at hs
      exact ih hrest hs

theorem All.set {s : Session} (h : ss.All P) (name : String) (hs : P s) :
    (ss.set name s).All P := by
  induction ss with
  | nil => exact all_cons_iff.mpr ⟨hs, all_nil⟩
  | cons entry rest ih =>
    obtain ⟨n, t⟩ := entry
    obtain ⟨ht, hrest⟩ := all_cons_iff.mp h
    rw [Sessions.set]
    by_cases hn : n = name
    · rw [if_pos hn]
      exact all_cons_iff.mpr ⟨hs, hrest⟩
    · rw [if_neg hn]
      exact all_cons_iff.mpr ⟨ht, ih hrest⟩

/-! ## States in flight -/

/-- What the sessions are before, between and after commits in their order, up to one that fails. -/
def states (ss : Sessions) : List OtherCommit → List Sessions
  | [] => [ss]
  | c :: cs =>
    ss :: match ss.commit c with
      | .ok after => states after cs
      | .error _ => []

theorem commitAll_mem_states (cs : List OtherCommit) : (ss.commitAll cs).2 ∈ ss.states cs := by
  induction cs generalizing ss with
  | nil => exact List.mem_singleton.mpr rfl
  | cons c cs ih =>
    rw [commitAll, states]
    cases ss.commit c with
    | error defect => exact List.mem_cons_self
    | ok after => exact List.mem_cons_of_mem _ ih

/-- A property of credentials is kept by commits of sessions that have it. -/
theorem All.states {cs : List OtherCommit}
    (hreplaced : ∀ s fresh : Session, P fresh → P (s.replaced fresh)) (h : ss.All P)
    (hcs : ∀ c ∈ cs, ∀ fresh, c.fresh = .ok fresh → P fresh) :
    ∀ state ∈ ss.states cs, state.All P := by
  induction cs generalizing ss with
  | nil =>
    intro state hstate
    cases List.mem_singleton.mp hstate
    exact h
  | cons c cs ih =>
    intro state hstate
    rw [Sessions.states, List.mem_cons] at hstate
    rcases hstate with rfl | hstate
    · exact h
    · cases hcommit : ss.commit c with
      | error defect =>
        rw [hcommit] at hstate
        cases hstate
      | ok after =>
        rw [hcommit] at hstate
        obtain ⟨s, fresh, -, hfresh, rfl⟩ := commit_eq_ok hcommit
        have hafter : P (s.replaced fresh) :=
          hreplaced s fresh (hcs c List.mem_cons_self fresh hfresh)
        exact ih (h.set c.name hafter) (fun c hc ↦ hcs c (List.mem_cons_of_mem _ hc)) state hstate

end Sessions

/-! ## Deliveries -/

namespace World

/-- What a request may do to the world: it takes the next delivery, and leaves what the commits in
it lead to, or it takes none, and leaves the sessions as they are. -/
def Passes (w after : World) : Prop :=
  after.deliveries = w.deliveries ∧ after.sessions = w.sessions ∨
    ∃ d rest, w.deliveries = d :: rest ∧ after.deliveries = rest ∧
      after.sessions = (w.sessions.commitAll d.commits).2

theorem passes_send (w : World) (r : Request) : w.Passes (w.send r).2 := by
  rw [send]
  cases hd : w.deliveries with
  | nil => exact .inl ⟨hd.symm, rfl⟩
  | cons d rest =>
    refine .inr ⟨d, rest, hd, ?_, pass_sessions _ _⟩
    simp only [pass]
    rcases w.sessions.commitAll d.commits with ⟨_ | _, sessions⟩ <;> rfl

theorem passes_perform_send (w : World) (r : Request) :
    w.Passes ((Action.send r).perform w).2 := by
  rw [Action.perform_send]
  cases r.destination with
  | error defect => exact .inl ⟨rfl, rfl⟩
  | ok url =>
    by_cases hclosed : w.isClosed = true
    · simp only [if_pos hclosed]
      exact .inl ⟨rfl, rfl⟩
    · simp only [if_neg hclosed]
      exact w.passes_send (r.sentTo url)

end World

namespace TokenEndpoint

/-! ## Exchanges -/

variable (e : TokenEndpoint) (grant : Grant) (w : World)

theorem perform_exchange :
    (e.exchange grant).perform w =
      match (Action.send (e.request grant)).perform w with
      | (.error failure, after) => (.error failure, after)
      | (.ok reply, after) =>
        (e.conclude after.now reply, after.written (report grant after.now reply)) := by
  rw [exchange, Action.perform_bind]
  rcases (Action.send (e.request grant)).perform w with ⟨failure | reply, after⟩
  · rfl
  · simp only [Action.perform_bind, Action.perform_now, Action.perform_logAll, Action.perform_lift]

/-- An exchange that succeeds has accepted the payload that its bundle holds. -/
theorem ofMembers_of_exchange {w after : World} {bundle : TokenBundle}
    (h : (e.exchange grant).perform w = (.ok bundle, after)) :
    TokenBundle.ofMembers bundle.extra after.now = .ok bundle := by
  rw [perform_exchange] at h
  rcases hsend : (Action.send (e.request grant)).perform w with ⟨failure | reply, sent⟩
  · rw [hsend] at h
    cases h
  · rw [hsend] at h
    obtain ⟨hconclude, rfl⟩ := Prod.mk.inj h
    cases reply with
    | error fault => cases hconclude
    | ok response => exact ofMembers_of_read_eq_ok (mapError_eq_ok_iff.mp hconclude)

theorem passes_exchange : w.Passes ((e.exchange grant).perform w).2 := by
  have hsend := w.passes_perform_send (e.request grant)
  rw [perform_exchange]
  generalize (Action.send (e.request grant)).perform w = performed at hsend ⊢
  rcases performed with ⟨failure | reply, sent⟩
  · exact hsend
  · exact hsend

end TokenEndpoint

/-! ## Trades -/

namespace Provider

/-- A grant is traded for a bundle, and the bundle projected. -/
def trade (p : Provider) (grant : Grant) (f : AccessError → AccessError) : Action Session := do
  let bundle ← (p.data.tokenEndpoint.exchange grant).mapError f
  (p.createSession bundle).mapError updateError

variable (p : Provider) (grant : Grant) (f : AccessError → AccessError) (w : World)

theorem redeem_eq_trade (redirectUrl code : Text) :
    p.redeem redirectUrl code = p.trade (.code code redirectUrl) redeemError := rfl

theorem redeemRefresh_eq_trade (pending : PendingRefresh) :
    p.redeemRefresh pending = p.trade (.refresh pending.refreshToken) refreshError := rfl

/-- A trade is an exchange and one look at the clock behind it. -/
theorem perform_trade :
    ∃ entries, (p.trade grant f).perform w =
      match (p.data.tokenEndpoint.exchange grant).perform w with
      | (.error failure, after) => (.error (failure.map f), after)
      | (.ok bundle, after) => (p.renew after.now bundle, after.written entries) := by
  rw [trade, Action.perform_bind, Action.perform_mapError]
  rcases (p.data.tokenEndpoint.exchange grant).perform w with ⟨failure | bundle, after⟩
  · exact ⟨[], rfl⟩
  · refine ⟨projectionEntries (p.project after.now.seconds bundle), ?_⟩
    simp only [mapError_ok, Action.perform_mapError, perform_createSession, renew]
    cases p.project after.now.seconds bundle <;> rfl

/-- The sessions after a trade are those after its exchange. -/
theorem trade_sessions :
    ((p.trade grant f).perform w).2.sessions =
      ((p.data.tokenEndpoint.exchange grant).perform w).2.sessions := by
  obtain ⟨entries, hperform⟩ := p.perform_trade grant f w
  rw [hperform]
  rcases (p.data.tokenEndpoint.exchange grant).perform w with ⟨failure | bundle, after⟩ <;> rfl

/-- What a trade brings is the projection of the bundle of its exchange. -/
theorem project_of_trade {p : Provider} {grant : Grant} {f : AccessError → AccessError}
    {w : World} {fresh : Session} (h : ((p.trade grant f).perform w).1 = .ok fresh) :
    ∃ bundle after, (p.data.tokenEndpoint.exchange grant).perform w = (.ok bundle, after) ∧
      p.project after.now.seconds bundle = .ok fresh := by
  obtain ⟨entries, hperform⟩ := p.perform_trade grant f w
  rw [hperform] at h
  rcases hexchange : (p.data.tokenEndpoint.exchange grant).perform w with
    ⟨failure | bundle, after⟩
  · rw [hexchange] at h
    cases h
  · rw [hexchange] at h
    exact ⟨bundle, after, rfl, renew_eq_ok_iff.mp h⟩

end Provider

/-! ## Refreshes as trades -/

/-- The refresh that the session of a name needs, if there is one and it does. -/
def World.pending? (w : World) : Option String → Option PendingRefresh
  | none => none
  | some name =>
    match w.sessions.get? name with
    | none => none
    | some s =>
      match s.beginRefresh w.now with
      | .ok pending => pending
      | .error _ => none

theorem World.pending?_eq_some {w : World} {name : Option String} {pending : PendingRefresh}
    (h : w.pending? name = some pending) :
    ∃ n s, name = some n ∧ w.sessions.get? n = some s ∧
      s.beginRefresh w.now = .ok (some pending) := by
  cases name with
  | none => cases h
  | some n =>
    rw [pending?] at h
    cases hs : w.sessions.get? n with
    | none => rw [hs] at h; cases h
    | some s =>
      rw [hs] at h
      cases hbegin : s.beginRefresh w.now with
      | error defect => simp [hbegin] at h
      | ok begun => exact ⟨n, s, rfl, hs, by simpa [hbegin] using h⟩

namespace Provider

variable {p : Provider} {name : Option String} {pending : PendingRefresh} {w : World}

/-- Where no refresh is pending, nothing is done and no session made. -/
theorem perform_refreshSession_of_none (h : w.pending? name = none) :
    ∃ result, (p.refreshSession name).perform w = (result, w) ∧ ∀ s, result ≠ .ok (some s) := by
  cases name with
  | none => exact ⟨.ok none, rfl, fun s h ↦ (nomatch h)⟩
  | some n =>
    simp only [refreshSession, Action.perform_bind, Action.perform_session]
    cases hs : w.sessions.get? n with
    | none => exact ⟨.error (.defect .noSession), rfl, fun s h ↦ (nomatch h)⟩
    | some s =>
      simp only [Action.perform_now, Action.perform_liftDefect]
      rcases hbegin : s.beginRefresh w.now with defect | _ | pending
      · exact ⟨.error (.defect defect), rfl, fun s h ↦ (nomatch h)⟩
      · exact ⟨.ok none, rfl, fun s h ↦ (nomatch h)⟩
      · simp [World.pending?, hs, hbegin] at h

/-- A pending refresh makes a session of what it trades its token for. -/
theorem perform_refreshSession_of_some (h : w.pending? name = some pending) :
    ∃ n, (p.refreshSession name).perform w =
      match (p.redeemRefresh pending).perform w with
      | (.error failure, after) => (.error failure, after)
      | (.ok fresh, after) =>
        match after.sessions.get? n with
        | some t => (.ok (some (t.carryOver fresh)), after)
        | none => (.error (.defect .noSession), after) := by
  obtain ⟨n, s, rfl, hs, hbegin⟩ := World.pending?_eq_some h
  refine ⟨n, ?_⟩
  simp only [refreshSession, Action.perform_bind, Action.perform_session_of_some hs,
    Action.perform_now, Action.perform_liftDefect, hbegin, mapError_ok]
  rcases (p.redeemRefresh pending).perform w with ⟨failure | fresh, after⟩
  · rfl
  · simp only [Action.perform_session]
    cases after.sessions.get? n <;> rfl

theorem perform_refreshIfNeeded_of_none (h : w.pending? name = none) :
    ((p.refreshIfNeeded name).perform w).2 = w := by
  cases name with
  | none => rfl
  | some n =>
    simp only [refreshIfNeeded, Action.perform_bind, Action.perform_session]
    cases hs : w.sessions.get? n with
    | none => rfl
    | some s =>
      simp only [Action.perform_now, Action.perform_liftDefect]
      rcases hbegin : s.beginRefresh w.now with defect | _ | pending
      · rfl
      · rfl
      · simp [World.pending?, hs, hbegin] at h

/-- The sessions after a pending refresh: those after its trade, one of them replaced if the refresh
comes to its commit and that succeeds. -/
theorem refreshIfNeeded_sessions_of_some (h : w.pending? name = some pending) :
    ∃ n, ((p.refreshIfNeeded name).perform w).2.sessions =
      match (p.redeemRefresh pending).perform w with
      | (.error _, after) => after.sessions
      | (.ok fresh, after) =>
        match (after.sessions.get? n).bind fun t ↦ (pending.finish t fresh).toOption with
        | some renewed => after.sessions.set n renewed
        | none => after.sessions := by
  obtain ⟨n, s, rfl, hs, hbegin⟩ := World.pending?_eq_some h
  refine ⟨n, ?_⟩
  simp only [refreshIfNeeded, Action.perform_bind, Action.perform_session_of_some hs,
    Action.perform_now, Action.perform_liftDefect, hbegin, mapError_ok]
  rcases (p.redeemRefresh pending).perform w with ⟨failure | fresh, after⟩
  · rfl
  · simp only [Action.perform_session]
    cases after.sessions.get? n with
    | none => rfl
    | some t =>
      simp only [Option.bind_some]
      cases pending.finish t fresh with
      | error error => rfl
      | ok renewed =>
        -- whatever becomes of the report, the session is in its place
        simp only [Action.perform_bind, Action.perform_setSession, Action.perform_liftDefect]
        rcases pending.expiresOn.text? with defect | expiredOn
        · rfl
        · rcases renewed.expiresOn.text? with defect | expiresOn <;> rfl

end Provider

end SessionGate
