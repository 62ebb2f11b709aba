import SessionGate.Proofs.Interleaving

/-!
# Refreshes do not overwrite each other

What can be relied on while refreshes of one session and commits by others are interleaved in
whatever order, `SharedSession.run_serialized`: the version counts the commits, the credentials are
those of the last one, of the calls that read one version at most one succeeds, and it depends on
nothing but whether somebody else has committed.

## The invariant

A call succeeds on the version that it has read, and its commit leaves that version behind. So the
invariant `SharedSession.Sound` says of a call that has succeeded that the version it read is below
that of the session, and the next one to succeed has read the session's. Two that have read the same
version cannot both be among them.

A call that has committed still has two expiries to put into the log. That this never fails is part
of the invariant too, since otherwise a call could commit and not return.
-/

namespace SessionGate

/-! ## One call -/

/-- What is pending was begun on a version, with an expiry that has a text. -/
def PendingRefresh.IsFor (pending : PendingRefresh) (version : Int) : Prop :=
  pending.version = version ∧ ∃ t, pending.expiresOn.text? = .ok t

namespace Stage

/-- What a call carries along was begun on a version and can be logged. -/
def Keeps (version : Int) : Stage → Prop
  | begun pending => pending.IsFor version
  | posted pending _ => pending.IsFor version
  | received pending _ => pending.IsFor version
  | projected pending fresh => pending.IsFor version ∧ ∃ t, fresh.expiresOn.text? = .ok t
  | ended _ => True

theorem keeps_start (s : Session) (now : Moment) : (start s now).Keeps s.version := by
  rw [start]
  cases hbegin : s.beginRefresh now with
  | error defect => trivial
  | ok begun =>
    cases begun with
    | none => trivial
    | some pending =>
      obtain ⟨-, hpending⟩ := Session.beginRefresh_eq_some_iff.mp hbegin
      exact ⟨by rw [hpending], Session.text?_of_beginRefresh hbegin⟩

theorem start_ne_won (s : Session) (now : Moment) : start s now ≠ ended (.ok true) := by
  rw [start]
  rcases s.beginRefresh now with defect | _ | pending <;> exact fun h ↦ by cases h

/-- A signal keeps what is carried along. It ends a call only with a failure. -/
theorem keeps_advance {version : Int} {stage : Stage} (p : Provider) (now : Moment)
    (signal : Signal) (h : stage.Keeps version) :
    (stage.advance p now signal).Keeps version ∧
      (stage.advance p now signal = ended (.ok true) → stage = ended (.ok true)) := by
  cases signal with
  | post isClosed =>
    cases stage with
    | begun pending =>
      rw [advance, post]
      cases p.post pending isClosed with
      | error defect => exact ⟨trivial, fun h ↦ by cases h⟩
      | ok url => exact ⟨h, fun h ↦ by cases h⟩
    | _ => exact ⟨h, id⟩
  | receive outcome =>
    cases stage with
    | posted pending url =>
      rw [advance, receive]
      cases p.receive now url outcome with
      | error failure => exact ⟨trivial, fun h ↦ by cases h⟩
      | ok bundle => exact ⟨h, fun h ↦ by cases h⟩
    | _ => exact ⟨h, id⟩
  | project =>
    cases stage with
    | received pending bundle =>
      rw [advance, project]
      cases hrenew : p.renew now bundle with
      | error failure => exact ⟨trivial, fun h ↦ by cases h⟩
      | ok fresh =>
        exact ⟨⟨h, Provider.text?_of_project (Provider.renew_eq_ok_iff.mp hrenew)⟩,
          fun h ↦ by cases h⟩
    | _ => exact ⟨h, id⟩

/-- **The end of a call.** It commits what it has projected if the session still has the version
that was read, and otherwise it conflicts and leaves the session alone. -/
theorem finish_projected {version : Int} {pending : PendingRefresh} {fresh : Session} (s : Session)
    (h : (projected pending fresh).Keeps version) :
    (projected pending fresh).finish s =
      if version = s.version then (ended (.ok true), s.replaced (s.carryOver fresh))
      else (ended (.error (.refused (Session.conflict (.int version) s.version))), s) := by
  obtain ⟨⟨hversion, hpending⟩, hfresh⟩ := h
  rw [finish, PendingRefresh.finish_eq, hversion]
  by_cases heq : version = s.version
  · have hafter : ∃ t, (s.replaced (s.carryOver fresh)).expiresOn.text? = .ok t :=
      (Session.carryOver_expiresOn s fresh).symm ▸ hfresh
    rw [if_pos heq, if_pos heq]
    simp only [reported_eq hpending hafter]
  · rw [if_neg heq, if_neg heq]

/-- The end of a call leaves no version below that of the session, and a call that succeeds has read
the version of the session and leaves the next one. -/
theorem keeps_finish {version : Int} {stage : Stage} (s : Session) (h : stage.Keeps version) :
    s.version ≤ (stage.finish s).2.version ∧ (stage.finish s).1.Keeps version ∧
      ((stage.finish s).1 = ended (.ok true) → stage = ended (.ok true) ∨
        version = s.version ∧ s.version < (stage.finish s).2.version) := by
  cases stage with
  | projected pending fresh =>
    rw [finish_projected s h]
    by_cases heq : version = s.version
    · rw [if_pos heq]
      have hlt : s.version < (s.replaced (s.carryOver fresh)).version := Int.lt_succ s.version
      exact ⟨Int.le_of_lt hlt, trivial, fun _ ↦ .inr ⟨heq, hlt⟩⟩
    · rw [if_neg heq]
      exact ⟨Int.le_refl _, trivial, fun h ↦ (nomatch h)⟩
  | _ => exact ⟨Int.le_refl _, h, .inl⟩

end Stage

namespace RefreshCall

/-- The call has returned that it refreshed the session. -/
def Won (c : RefreshCall) : Prop :=
  c.stage = .ended (.ok true)

/-- What a call keeps in all that may happen: its provider, the version it has read, and its result
once there is one. -/
structure Becomes (c d : RefreshCall) : Prop where
  provider : d.provider = c.provider
  version : d.version = c.version
  result : ∀ result, c.stage = .ended result → d.stage = .ended result

theorem Becomes.refl (c : RefreshCall) : c.Becomes c :=
  ⟨rfl, rfl, fun _ h ↦ h⟩

theorem Becomes.trans {b c d : RefreshCall} (h : b.Becomes c) (h' : c.Becomes d) : b.Becomes d :=
  ⟨h'.provider.trans h.provider, h'.version.trans h.version,
    fun result hb ↦ h'.result result (h.result result hb)⟩

end RefreshCall

/-! ## All calls -/

namespace SharedSession

theorem calls_move {σ : SharedSession} {i : Nat} {c : RefreshCall}
    (f : RefreshCall → Stage × Session) (h : σ.calls[i]? = some c) (j : Nat) :
    (σ.move i f).calls[j]? = if i = j then some { c with stage := (f c).1 } else σ.calls[j]? := by
  obtain ⟨hi, -⟩ := List.getElem?_eq_some_iff.mp h
  simp only [move, h, List.getElem?_set, if_pos hi]

theorem session_move {σ : SharedSession} {i : Nat} {c : RefreshCall}
    (f : RefreshCall → Stage × Session) (h : σ.calls[i]? = some c) :
    (σ.move i f).session = (f c).2 := by
  simp only [move, h]

/-- A move keeps a call that it keeps the result of. -/
theorem becomes_move {σ : SharedSession} {i j : Nat} {c : RefreshCall}
    (f : RefreshCall → Stage × Session)
    (hf : ∀ c result, c.stage = .ended result → (f c).1 = .ended result)
    (h : σ.calls[j]? = some c) : ∃ d, (σ.move i f).calls[j]? = some d ∧ c.Becomes d := by
  cases hi : σ.calls[i]? with
  | none =>
    rw [move, hi]
    exact ⟨c, h, .refl c⟩
  | some b =>
    rw [calls_move f hi]
    by_cases hij : i = j
    · cases hij
      cases hi.symm.trans h
      rw [if_pos rfl]
      exact ⟨_, rfl, rfl, rfl, hf c⟩
    · rw [if_neg hij]
      exact ⟨c, h, .refl c⟩

theorem becomes_step {σ : SharedSession} {i : Nat} {c : RefreshCall} (e : Event)
    (h : σ.calls[i]? = some c) : ∃ d, (σ.step e).calls[i]? = some d ∧ c.Becomes d := by
  cases e with
  | call p =>
    obtain ⟨hi, -⟩ := List.getElem?_eq_some_iff.mp h
    exact ⟨c, (List.getElem?_append_left hi).trans h, .refl c⟩
  | signal j signal =>
    refine becomes_move _ (fun b result hresult ↦ ?_) h
    simp only [hresult]
    cases signal <;> rfl
  | finish j =>
    refine becomes_move _ (fun b result hresult ↦ ?_) h
    simp only [hresult]
    rfl
  | commit fresh expected => exact ⟨c, h, .refl c⟩
  | clock now => exact ⟨c, h, .refl c⟩

theorem becomes_run {σ : SharedSession} {i : Nat} {c : RefreshCall} (es : List Event)
    (h : σ.calls[i]? = some c) : ∃ d, (σ.run es).calls[i]? = some d ∧ c.Becomes d := by
  induction es generalizing σ c with
  | nil => exact ⟨c, h, .refl c⟩
  | cons e es ih =>
    obtain ⟨d, hd, hcd⟩ := becomes_step e h
    obtain ⟨d', hd', hdd'⟩ := ih hd
    exact ⟨d', hd', hcd.trans hdd'⟩

/-! ## The invariant -/

/-- Calls have read versions that the session has had, those that have succeeded have left theirs
behind, and no two of them have read the same. -/
structure Sound (σ : SharedSession) : Prop where
  version_le : ∀ (i : Nat) (c : RefreshCall), σ.calls[i]? = some c → c.version ≤ σ.session.version
  keeps : ∀ (i : Nat) (c : RefreshCall), σ.calls[i]? = some c → c.stage.Keeps c.version
  won_lt : ∀ (i : Nat) (c : RefreshCall), σ.calls[i]? = some c → c.Won →
    c.version < σ.session.version
  won_unique : ∀ (i j : Nat) (c d : RefreshCall), σ.calls[i]? = some c → σ.calls[j]? = some d →
    c.Won → d.Won → c.version = d.version → i = j

theorem sound_start (s : Session) (now : Moment) : (start s now).Sound where
  version_le _ _ h := nomatch h
  keeps _ _ h := nomatch h
  won_lt _ _ h := nomatch h
  won_unique _ _ _ _ h := nomatch h

/-- A session that is replaced without a call having a part in it. -/
theorem Sound.of_calls {σ τ : SharedSession} (h : σ.Sound) (hcalls : τ.calls = σ.calls)
    (hversion : σ.session.version ≤ τ.session.version) : τ.Sound where
  version_le i c hc := Int.le_trans (h.version_le i c (hcalls ▸ hc)) hversion
  keeps i c hc := h.keeps i c (hcalls ▸ hc)
  won_lt i c hc hwon := Int.lt_of_lt_of_le (h.won_lt i c (hcalls ▸ hc) hwon) hversion
  won_unique i j c d hc hd := h.won_unique i j c d (hcalls ▸ hc) (hcalls ▸ hd)

/-- A call that begins has not succeeded yet. -/
theorem Sound.call {σ : SharedSession} (h : σ.Sound) (p : Provider) : (σ.step (.call p)).Sound := by
  have hcalls : ∀ (i : Nat) (c : RefreshCall), (σ.step (.call p)).calls[i]? = some c →
      σ.calls[i]? = some c ∨ c = ⟨p, σ.session.version, .start σ.session σ.now⟩ := by
    intro i c hc
    rw [step, List.getElem?_append] at hc
    split at hc
    · exact .inl hc
    · exact .inr (List.mem_singleton.mp (List.mem_of_getElem? hc))
  -- who has succeeded was there before
  have hold : ∀ (i : Nat) (c : RefreshCall), (σ.step (.call p)).calls[i]? = some c → c.Won →
      σ.calls[i]? = some c := by
    intro i c hc hwon
    rcases hcalls i c hc with hc | rfl
    · exact hc
    · exact absurd hwon (Stage.start_ne_won σ.session σ.now)
  constructor
  case version_le =>
    intro i c hc
    rcases hcalls i c hc with hc | rfl
    · exact h.version_le i c hc
    · exact Int.le_refl _
  case keeps =>
    intro i c hc
    rcases hcalls i c hc with hc | rfl
    · exact h.keeps i c hc
    · exact Stage.keeps_start σ.session σ.now
  case won_lt => exact fun i c hc hwon ↦ h.won_lt i c (hold i c hc hwon) hwon
  case won_unique =>
    intro i j c d hc hd hcwon hdwon
    exact h.won_unique i j c d (hold i c hc hcwon) (hold j d hd hdwon) hcwon hdwon

/-- The calls after a move are those before it and the one that has moved. -/
theorem calls_of_move {σ : SharedSession} {i j : Nat} {b c : RefreshCall}
    (f : RefreshCall → Stage × Session) (hi : σ.calls[i]? = some b)
    (hc : (σ.move i f).calls[j]? = some c) :
    i = j ∧ c = { b with stage := (f b).1 } ∨ σ.calls[j]? = some c := by
  rw [calls_move f hi] at hc
  by_cases hij : i = j
  · rw [if_pos hij] at hc
    exact .inl ⟨hij, (Option.some.inj hc).symm⟩
  · rw [if_neg hij] at hc
    exact .inr hc

/-- What a call that moves may do: it may succeed on the version of the session, if it leaves that
version behind. -/
structure FairMove (s : Session) (c : RefreshCall) (t : Stage × Session) : Prop where
  version_le : s.version ≤ t.2.version
  keeps : t.1.Keeps c.version
  wins : t.1 = .ended (.ok true) → c.Won ∨ c.version = s.version ∧ s.version < t.2.version

/-- Who has succeeded after a move had done so before, or is the one that has moved. -/
theorem won_of_move {σ : SharedSession} {i j : Nat} {b c : RefreshCall}
    {f : RefreshCall → Stage × Session} (hi : σ.calls[i]? = some b)
    (hfair : FairMove σ.session b (f b)) (hc : (σ.move i f).calls[j]? = some c) (hwon : c.Won) :
    (∃ a, σ.calls[j]? = some a ∧ a.Won ∧ a.version = c.version) ∨
      i = j ∧ c.version = σ.session.version ∧ σ.session.version < (f b).2.version := by
  rcases calls_of_move f hi hc with ⟨rfl, rfl⟩ | hc
  · rcases hfair.wins hwon with hb | hb
    · exact .inl ⟨b, hi, hb, rfl⟩
    · exact .inr ⟨rfl, hb⟩
  · exact .inl ⟨c, hc, hwon, rfl⟩

theorem Sound.move {σ : SharedSession} (h : σ.Sound) (i : Nat) (f : RefreshCall → Stage × Session)
    (hf : ∀ c : RefreshCall, c.stage.Keeps c.version → FairMove σ.session c (f c)) :
    (σ.move i f).Sound := by
  cases hi : σ.calls[i]? with
  | none =>
    rw [SharedSession.move, hi]
    exact h
  | some b =>
    have hfair := hf b (h.keeps i b hi)
    have hsession := session_move f hi
    constructor
    case version_le =>
      intro j c hc
      rw [hsession]
      rcases calls_of_move f hi hc with ⟨-, rfl⟩ | hc
      · exact Int.le_trans (h.version_le i b hi) hfair.version_le
      · exact Int.le_trans (h.version_le j c hc) hfair.version_le
    case keeps =>
      intro j c hc
      rcases calls_of_move f hi hc with ⟨-, rfl⟩ | hc
      · exact hfair.keeps
      · exact h.keeps j c hc
    case won_lt =>
      intro j c hc hwon
      rw [hsession]
      rcases won_of_move hi hfair hc hwon with ⟨a, ha, hawon, hac⟩ | ⟨-, heq, hlt⟩
      · exact hac ▸ Int.lt_of_lt_of_le (h.won_lt j a ha hawon) hfair.version_le
      · exact heq ▸ hlt
    case won_unique =>
      intro j k c d hc hd hcwon hdwon hcd
      rcases won_of_move hi hfair hc hcwon with ⟨a, ha, hawon, hac⟩ | ⟨hij, hceq, -⟩
      · rcases won_of_move hi hfair hd hdwon with ⟨a', ha', hawon', hac'⟩ | ⟨-, hdeq, -⟩
        · exact h.won_unique j k a a' ha ha' hawon hawon' (by omega)
        · -- the one that moves has read the version of the session, the other an earlier one
          have hlt := h.won_lt j a ha hawon
          omega
      · rcases won_of_move hi hfair hd hdwon with ⟨a', ha', hawon', hac'⟩ | ⟨hik, -, -⟩
        · have hlt := h.won_lt k a' ha' hawon'
          omega
        · exact hij.symm.trans hik

theorem Sound.step {σ : SharedSession} (h : σ.Sound) (e : Event) : (σ.step e).Sound := by
  cases e with
  | call p => exact h.call p
  | signal i signal =>
    refine h.move i _ fun c hc ↦ ?_
    obtain ⟨hkeeps, hwon⟩ := Stage.keeps_advance c.provider σ.now signal hc
    exact ⟨Int.le_refl _, hkeeps, fun hwins ↦ .inl (hwon hwins)⟩
  | finish i =>
    refine h.move i _ fun c hc ↦ ?_
    obtain ⟨hversion, hkeeps, hwins⟩ := Stage.keeps_finish σ.session hc
    exact ⟨hversion, hkeeps, hwins⟩
  | commit fresh expected =>
    refine h.of_calls rfl ?_
    rw [step_session, Session.version_after]
    omega
  | clock now => exact h.of_calls rfl (Int.le_refl _)

theorem Sound.run {σ : SharedSession} (h : σ.Sound) (es : List Event) : (σ.run es).Sound := by
  induction es generalizing σ with
  | nil => exact h
  | cons e es ih => exact ih (h.step e)

/-! ## Runs -/

/-- The end of one call, with the result it returns and the session it leaves. -/
def conclude (σ : SharedSession) (i : Nat) (result : Except Failure Bool) (s : Session) :
    SharedSession :=
  σ.move i fun _ ↦ (.ended result, s)

/-- A call that has projected commits if nobody has committed since it read the version, and
otherwise it conflicts. -/
theorem step_finish {σ : SharedSession} {es : List Event} {i : Nat} {b c : RefreshCall}
    {pending : PendingRefresh} {fresh : Session} (hsound : σ.Sound)
    (hb : σ.calls[i]? = some b) (hread : b.version = σ.session.version)
    (hc : (σ.run es).calls[i]? = some c) (hprojected : c.stage = .projected pending fresh) :
    c.version = σ.session.version ∧
      (σ.history es = [] → (σ.run es).step (.finish i) = (σ.run es).conclude i (.ok true)
        ((σ.run es).session.replaced ((σ.run es).session.carryOver fresh))) ∧
      (σ.history es ≠ [] → (σ.run es).step (.finish i) = (σ.run es).conclude i
        (.error (.refused (Session.conflict (.int c.version) (σ.run es).session.version)))
        (σ.run es).session) := by
  obtain ⟨d, hd, hbd⟩ := becomes_run es hb
  have hversion : c.version = σ.session.version := by
    cases hd.symm.trans hc
    exact hbd.version.trans hread
  have hkeeps := (hsound.run es).keeps i c hc
  rw [hprojected] at hkeeps
  -- every commit counts, so the version tells whether there was one
  have hsame : c.version = (σ.run es).session.version ↔ σ.history es = [] := by
    rw [hversion, run_session, eq_comm, Session.version_after_eq_iff]
  have hmove : ∀ t : Stage × Session, c.stage.finish (σ.run es).session = t →
      (σ.run es).step (.finish i) = (σ.run es).move i fun _ ↦ t := by
    intro t ht
    simp only [step, move, hc, ht]
  rw [hprojected, Stage.finish_projected (σ.run es).session hkeeps] at hmove
  refine ⟨hversion, fun hnone ↦ ?_, fun hsome ↦ ?_⟩
  · exact hmove _ (if_pos (hsame.mpr hnone))
  · exact hmove _ (if_neg fun heq ↦ hsome (hsame.mp heq))

/-- **The version serializes what is interleaved.** Whatever happens to a shared session and in
whatever order, its version counts the commits and its credentials are those of the last one, so
whoever sees the same version twice has seen the same credentials. Of the calls that read one
version at most one succeeds, and what a call has returned stays. A call that has projected succeeds
exactly if nobody has committed since it read the version; otherwise it conflicts and leaves the
session alone. -/
theorem run_serialized (s : Session) (now : Moment) (es : List Event) :
    let σ := (start s now).run es
    let commits := (start s now).history es
    (σ.session.version = s.version + commits.length ∧
        ∀ fs, σ.session.version ≤ (σ.run fs).session.version) ∧
      (∀ (i j : Nat) (c d : RefreshCall), σ.calls[i]? = some c → σ.calls[j]? = some d →
        c.version = d.version → c.Won → d.Won → i = j) ∧
      (∀ (i : Nat) (c : RefreshCall) fs, σ.calls[i]? = some c →
        ∃ d, (σ.run fs).calls[i]? = some d ∧ c.Becomes d) ∧
      (∀ p fs c pending fresh,
        let i := σ.calls.length
        let τ := σ.run (.call p :: fs)
        τ.calls[i]? = some c → c.stage = .projected pending fresh →
          c.version = σ.session.version ∧
            (σ.history (.call p :: fs) = [] → τ.step (.finish i) =
              τ.conclude i (.ok true) (τ.session.replaced (τ.session.carryOver fresh))) ∧
            (σ.history (.call p :: fs) ≠ [] → τ.step (.finish i) = τ.conclude i
              (.error (.refused (Session.conflict (.int c.version) τ.session.version)))
              τ.session)) ∧
      σ.session.credentials = (commits.getLast?.getD s).credentials ∧
        ∀ fs, (σ.run fs).session.version = σ.session.version →
          (σ.run fs).session.credentials = σ.session.credentials := by
  intro σ commits
  have hsession : σ.session = s.after commits := run_session (start s now) es
  have hsound : σ.Sound := (sound_start s now).run es
  refine ⟨⟨?_, fun fs ↦ ?_⟩, ?_, ?_, ?_, ?_, fun fs hsame ↦ ?_⟩
  · rw [hsession, Session.version_after]
  · rw [run_session σ fs, Session.version_after]
    omega
  · intro i j c d hc hd hversion hcwon hdwon
    exact hsound.won_unique i j c d hc hd hcwon hdwon hversion
  · exact fun i c fs hc ↦ becomes_run fs hc
  · intro p fs c pending fresh i τ hc hprojected
    have hbegun : (σ.step (.call p)).calls[i]? =
        some ⟨p, σ.session.version, .start σ.session σ.now⟩ :=
      List.getElem?_concat_length
    exact @step_finish (σ.step (.call p)) fs i _ c pending fresh (hsound.call p) hbegun rfl hc
      hprojected
  · rw [hsession, Session.credentials_after]
  · rw [run_session σ fs, Session.version_after_eq_iff] at hsame
    rw [run_session σ fs, hsame, Session.after_nil]

/-- What happens after a call that is overtaken by a second one. -/
def overtaking (p : Provider) (outcome : Except Defect Outcome) : List Event :=
  [.call p, .signal 0 (.post false), .signal 1 (.post false), .signal 0 (.receive outcome),
    .signal 1 (.receive outcome), .signal 0 .project, .signal 1 .project, .finish 1]

theorem run_overtaking {p : Provider} {outcome : Except Defect Outcome} {s fresh : Session}
    {now : Moment} {pending : PendingRefresh} {url : Url} {bundle : TokenBundle}
    (hbegin : s.beginRefresh now = .ok (some pending)) (hpost : p.post pending false = .ok url)
    (hreceive : p.receive now url outcome = .ok bundle) (hrenew : p.renew now bundle = .ok fresh) :
    (start s now).run (.call p :: overtaking p outcome) =
        ⟨s.replaced (s.carryOver fresh), now,
          [⟨p, s.version, .projected pending fresh⟩, ⟨p, s.version, .ended (.ok true)⟩]⟩ ∧
      (start s now).history (.call p :: overtaking p outcome) = [s.carryOver fresh] := by
  have hstart : Stage.start s now = .begun pending := by rw [Stage.start, hbegin]
  have hbegun : (Stage.begun pending).Keeps s.version := hstart ▸ Stage.keeps_start s now
  have hkeeps : (Stage.projected pending fresh).Keeps s.version :=
    ⟨hbegun, Provider.text?_of_project (Provider.renew_eq_ok_iff.mp hrenew)⟩
  have hfinish := (Stage.finish_projected s hkeeps).trans (if_pos rfl)
  have hcommitted : (Stage.projected pending fresh).committed s = some (s.carryOver fresh) := by
    rw [Stage.committed, PendingRefresh.finish_eq, hkeeps.1.1, if_pos rfl]
    rfl
  simp [overtaking, history, committed, start, step, move, hstart, Stage.advance, Stage.post,
    hpost, Stage.receive, hreceive, Stage.project, hrenew, hfinish, hcommitted]

/-- A call that is overtaken conflicts. -/
theorem run_serialized_overtaking :
    let τ := (start (sampleSession bareToken) sampleMoment).run
      (.call sampleProvider :: overtaking sampleProvider (.ok (.answered sampleAnswer)))
    (∃ d, τ.calls[1]? = some d ∧ d.Won) ∧
      ∃ error : AccessError, error.kind = .sessionConflict ∧
        τ.step (.finish 0) = τ.conclude 0 (.error (.refused error)) τ.session := by
  obtain ⟨url, bundle, fresh, hpost, hreceive, hrenew⟩ := Provider.sample_renewed
  have hbegin : (sampleSession bareToken).beginRefresh sampleMoment = .ok (some samplePending) :=
    rfl
  obtain ⟨hrun, hhistory⟩ := run_overtaking hbegin hpost hreceive hrenew
  intro τ
  have hcalls : τ.calls[0]? = some ⟨sampleProvider, 0, .projected samplePending fresh⟩ :=
    congrArg (fun σ ↦ σ.calls[0]?) hrun
  obtain ⟨-, -, hloses⟩ := (run_serialized (sampleSession bareToken) sampleMoment []).2.2.2.1
    sampleProvider _ _ samplePending fresh hcalls rfl
  have hovertaking : τ.calls[1]? = some ⟨sampleProvider, 0, .ended (.ok true)⟩ :=
    congrArg (fun σ ↦ σ.calls[1]?) hrun
  refine ⟨⟨_, hovertaking, rfl⟩, _, rfl, hloses ?_⟩
  intro hnone
  cases hhistory.symm.trans hnone

end SharedSession

end SessionGate
