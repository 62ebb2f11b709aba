import SessionGate.Proofs.Refresh

/-!
# Interleaved refreshes

Any number of refreshes of one session may be under way at the same time. Each of them begins by
reading the version and deciding whether the session is stale, posts its grant, receives the answer,
projects it and finishes with a commit; between any two of these steps others may go on. A
`SharedSession` is the session together with how far every call has come, and an `Event` is one step
of one call, a commit by somebody else, or the clock being set.

## One step at a time

`SharedSession.step` lets one event happen, and every list of events is a run: a step that is not
due changes nothing. What a step computes is what the library computes. The first decision is
`Session.beginRefresh`, the steps in between are `Provider.post`, `Provider.receive` and
`Provider.renew`, and the last one is `PendingRefresh.finish`. `refreshIfNeeded_eq_run` says that a
refresh of the library is a call whose steps are all there.

Every call brings its own provider, so keys and endpoints may change between calls.

## Commits

`SharedSession.committed` is the session that an event puts in place of the shared one, if it does,
and `SharedSession.history` lists these for a run. They are read off the commits that succeed; that
they are all that ever happens to the session is `SharedSession.run_session`.
-/

namespace SessionGate

/-! ## Calls -/

/-- How far a call has come. -/
inductive Stage where
  | begun (pending : PendingRefresh)
  | posted (pending : PendingRefresh) (url : Url)
  | received (pending : PendingRefresh) (bundle : TokenBundle)
  | projected (pending : PendingRefresh) (fresh : Session)
  | ended (result : Except Failure Bool)

/-- What takes a call from its beginning to its commit. -/
inductive Signal where
  | post (isClosed : Bool)
  | receive (outcome : Except Defect Outcome)
  | project

namespace Stage

/-- The decision at the beginning of a call. -/
def start (s : Session) (now : Moment) : Stage :=
  match s.beginRefresh now with
  | .error defect => ended (.error (.defect defect))
  | .ok none => ended (.ok false)
  | .ok (some pending) => begun pending

def post (p : Provider) (isClosed : Bool) : Stage → Stage
  | begun pending =>
    match p.post pending isClosed with
    | .error defect => ended (.error (.defect defect))
    | .ok url => posted pending url
  | stage => stage

def receive (p : Provider) (now : Moment) (outcome : Except Defect Outcome) : Stage → Stage
  | posted pending url =>
    match p.receive now url outcome with
    | .error failure => ended (.error failure)
    | .ok bundle => received pending bundle
  | stage => stage

def project (p : Provider) (now : Moment) : Stage → Stage
  | received pending bundle =>
    match p.renew now bundle with
    | .error failure => ended (.error failure)
    | .ok fresh => projected pending fresh
  | stage => stage

/-- The stage after a signal; one that is out of place changes nothing. -/
def advance (p : Provider) (now : Moment) (stage : Stage) : Signal → Stage
  | .post isClosed => stage.post p isClosed
  | .receive outcome => stage.receive p now outcome
  | .project => stage.project p now

/-- What a call returns that has committed: the two expiries go to the log as texts. -/
def reported (pending : PendingRefresh) (after : Session) : Except Failure Bool :=
  match pending.expiresOn.text?, after.expiresOn.text? with
  | .ok _, .ok _ => .ok true
  | .error defect, _ => .error (.defect defect)
  | _, .error defect => .error (.defect defect)

/-- The end of a call, and the session it leaves. -/
def finish (s : Session) : Stage → Stage × Session
  | projected pending fresh =>
    match pending.finish s fresh with
    | .error error => (ended (.error (.refused error)), s)
    | .ok after => (ended (reported pending after), after)
  | stage => (stage, s)

/-- The session that the end of a call commits. -/
def committed (s : Session) : Stage → Option Session
  | projected pending fresh => (pending.finish s fresh).toOption.map fun _ ↦ s.carryOver fresh
  | _ => none

end Stage

/-- A call: its provider, the version it has read, and how far it has come. -/
structure RefreshCall where
  provider : Provider
  version : Int
  stage : Stage

/-! ## Shared sessions -/

structure SharedSession where
  session : Session
  now : Moment
  calls : List RefreshCall := []

inductive Event where
  | call (p : Provider)
  | signal (i : Nat) (signal : Signal)
  | finish (i : Nat)
  | commit (fresh : Session) (expected : Json)
  | clock (now : Moment)

namespace SharedSession

/-- A shared session that nobody has called for yet. -/
def start (s : Session) (now : Moment) : SharedSession where
  session := s
  now := now

/-- Moves one call to another stage and leaves another session. -/
def move (σ : SharedSession) (i : Nat) (f : RefreshCall → Stage × Session) : SharedSession :=
  match σ.calls[i]? with
  | none => σ
  | some c => { σ with session := (f c).2, calls := σ.calls.set i { c with stage := (f c).1 } }

def step (σ : SharedSession) : Event → SharedSession
  | .call p => { σ with calls := σ.calls ++ [⟨p, σ.session.version, .start σ.session σ.now⟩] }
  | .signal i signal =>
    σ.move i fun c ↦ (c.stage.advance c.provider σ.now signal, σ.session)
  | .finish i => σ.move i fun c ↦ c.stage.finish σ.session
  | .commit fresh expected =>
    { σ with session := ((σ.session.commit fresh expected).toOption).getD σ.session }
  | .clock now => { σ with now }

def run (σ : SharedSession) (es : List Event) : SharedSession :=
  es.foldl step σ

/-- The session that an event puts in place of the shared one. -/
def committed (σ : SharedSession) : Event → Option Session
  | .finish i => σ.calls[i]?.bind fun c ↦ c.stage.committed σ.session
  | .commit fresh expected => (σ.session.commit fresh expected).toOption.map fun _ ↦ fresh
  | _ => none

/-- The sessions that are committed in a run, in their order. -/
def history (σ : SharedSession) : List Event → List Session
  | [] => []
  | e :: es => (σ.committed e).toList ++ (σ.step e).history es

variable (σ : SharedSession) (e : Event) (es fs : List Event)

@[simp] theorem run_nil : σ.run [] = σ := rfl

@[simp] theorem run_cons : σ.run (e :: es) = (σ.step e).run es := rfl

theorem run_append : σ.run (es ++ fs) = (σ.run es).run fs :=
  List.foldl_append

end SharedSession

/-! ## What happens to the session -/

theorem Stage.finish_snd (s : Session) (stage : Stage) :
    (stage.finish s).2 = s.after (stage.committed s).toList := by
  cases stage with
  | projected pending fresh =>
    rw [finish, committed]
    cases hfinish : pending.finish s fresh with
    | error error => rfl
    | ok after => exact Session.eq_replaced_of_commit hfinish
  | _ => rfl

namespace SharedSession

/-- A step replaces the session by what it commits and does nothing else to it. -/
theorem step_session (σ : SharedSession) (e : Event) :
    (σ.step e).session = σ.session.after (σ.committed e).toList := by
  cases e with
  | call p => rfl
  | clock now => rfl
  | commit fresh expected =>
    rw [step, committed]
    cases hcommit : σ.session.commit fresh expected with
    | error error => rfl
    | ok after => exact Session.eq_replaced_of_commit hcommit
  | signal i signal =>
    rw [step, move]
    cases σ.calls[i]? <;> rfl
  | finish i =>
    rw [step, move, committed]
    cases σ.calls[i]? with
    | none => rfl
    | some c => exact Stage.finish_snd σ.session c.stage

/-- The session after a run is the one before it after the commits of the run. -/
theorem run_session (σ : SharedSession) (es : List Event) :
    (σ.run es).session = σ.session.after (σ.history es) := by
  induction es generalizing σ with
  | nil => rfl
  | cons e es ih => rw [run_cons, ih, step_session, history, Session.after_append]

end SharedSession

/-! ## A refresh of the library -/

namespace Stage

theorem reported_eq {pending : PendingRefresh} {after : Session}
    (hpending : ∃ t, pending.expiresOn.text? = .ok t)
    (hafter : ∃ t, after.expiresOn.text? = .ok t) : reported pending after = .ok true := by
  obtain ⟨expiredOn, hexpired⟩ := hpending
  obtain ⟨expiresOn, hexpires⟩ := hafter
  rw [reported, hexpired, hexpires]

/-- The last three steps of a call, taken together. -/
theorem finish_project_receive (p : Provider) (now : Moment) (outcome : Except Defect Outcome)
    (s : Session) (pending : PendingRefresh) (url : Url) :
    finish s (((posted pending url).receive p now outcome).project p now) =
      match p.receive now url outcome >>= p.renew now with
      | .error failure => (ended (.error failure), s)
      | .ok fresh => (projected pending fresh).finish s := by
  rw [receive]
  cases p.receive now url outcome with
  | error failure => rfl
  | ok bundle =>
    simp only [project]
    rw [show (Except.ok bundle >>= p.renew now) = p.renew now bundle from rfl]
    cases p.renew now bundle <;> rfl

end Stage

namespace SharedSession

/-- Commits for no particular version all succeed. -/
theorem run_commits (σ : SharedSession) (landed : List Session) :
    σ.run (landed.map fun fresh ↦ .commit fresh .null) =
      { σ with session := σ.session.after landed } := by
  induction landed generalizing σ with
  | nil => rfl
  | cons fresh rest ih =>
    rw [List.map_cons, run_cons, ih]
    rfl

/-- All the steps of one call, with what is committed while its grant is in flight. -/
def course (p : Provider) (isClosed : Bool) (landed : List Session) (later : Moment)
    (outcome : Except Defect Outcome) : List Event :=
  [.call p, .signal 0 (.post isClosed)] ++ landed.map (fun fresh ↦ .commit fresh .null) ++
    [.clock later, .signal 0 (.receive outcome), .signal 0 .project, .finish 0]

theorem run_course (s : Session) (now : Moment) (p : Provider) (isClosed : Bool)
    (landed : List Session) (later : Moment) (outcome : Except Defect Outcome) :
    (start s now).run (course p isClosed landed later outcome) =
      let last := ((((Stage.start s now).post p isClosed).receive p later outcome).project p
        later).finish (s.after landed)
      ⟨last.2, later, [⟨p, s.version, last.1⟩]⟩ := by
  rw [course, run_append, run_append, run_commits]
  rfl

/-- **A refresh is one call.** A refresh of the library, with what lands on the session while its
grant is in flight, is a call that takes its steps one after the other, and ends with the same
result and the same session. -/
theorem refreshIfNeeded_eq_run (p : Provider) {name : String} {w : World} {s : Session}
    (h : w.sessions.get? name = some s) :
    ∃ landed later outcome, (landed = [] ∨ landed = w.inFlight name) ∧
      let σ := (start s w.now).run (course p w.isClosed landed later outcome)
      σ.calls = [⟨p, s.version, .ended ((p.refreshIfNeeded (some name)).perform w).1⟩] ∧
        ((p.refreshIfNeeded (some name)).perform w).2.sessions.get? name = some σ.session := by
  obtain ⟨entries, hperform⟩ := p.perform_refreshIfNeeded h
  rw [hperform]
  simp only [run_course]
  -- a call that ends early is not moved by the signals that are left, whatever they bring
  cases hbegin : s.beginRefresh w.now with
  | error defect =>
    refine ⟨[], w.now, .error .noServer, .inl rfl, ?_⟩
    simp only [Stage.start, hbegin]
    exact ⟨rfl, h⟩
  | ok begun =>
    cases begun with
    | none =>
      refine ⟨[], w.now, .error .noServer, .inl rfl, ?_⟩
      simp only [Stage.start, hbegin]
      exact ⟨rfl, h⟩
    | some pending =>
      simp only [Stage.start, hbegin, Stage.post]
      cases p.post pending w.isClosed with
      | error defect => exact ⟨[], w.now, .error .noServer, .inl rfl, rfl, h⟩
      | ok url =>
        have hlanded := World.send_session ((p.grantRequest pending).sentTo url) h
        simp only [Stage.finish_project_receive]
        generalize w.send ((p.grantRequest pending).sentTo url) = sent at hlanded ⊢
        refine ⟨w.inFlight name, sent.2.now, sent.1, .inr rfl, ?_⟩
        cases hrenewed : p.receive sent.2.now url sent.1 >>= p.renew sent.2.now with
        | error failure => exact ⟨rfl, hlanded⟩
        | ok fresh =>
          simp only [Stage.finish]
          cases hfinish : pending.finish (s.after (w.inFlight name)) fresh with
          | error error => exact ⟨rfl, hlanded⟩
          | ok after =>
            obtain ⟨bundle, -, hrenew⟩ := bind_eq_ok_iff.mp hrenewed
            have hafter : ∃ t, after.expiresOn.text? = .ok t := by
              rw [PendingRefresh.expiresOn_of_finish hfinish]
              exact Provider.text?_of_project (Provider.renew_eq_ok_iff.mp hrenew)
            have hreported := Stage.reported_eq (Session.text?_of_beginRefresh hbegin) hafter
            refine ⟨?_, Sessions.get?_set_self _ _ _⟩
            simp only [hreported]

end SharedSession

end SessionGate
