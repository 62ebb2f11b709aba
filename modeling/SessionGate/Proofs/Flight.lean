import SessionGate.World

/-!
# Sessions while a request is in flight

While a request is in flight others commit to sessions. `Sessions.landed` lists what their commits
put in place of one session, and `Session.after` is the session after that: the two together are
everything that can happen to a session between a request and its answer.

## What a session keeps

A commit replaces the credentials of a session and adds one to its version, so the version after a
flight tells how many commits landed. That is all an operation needs to find out, when its answer
comes, whether it still has the session it asked for.
-/

namespace SessionGate

/-! ## Sessions by name -/

namespace Sessions

theorem get?_cons (n : String) (t : Session) (rest : Sessions) (name : String) :
    get? ((n, t) :: rest) name = if name = n then some t else get? rest name := by
  rw [get?, List.lookup_cons]
  by_cases h : name = n
  · rw [if_pos h, beq_iff_eq.mpr h]
  · rw [if_neg h, beq_eq_false_iff_ne.mpr h, get?]

theorem get?_set (ss : Sessions) (name other : String) (s : Session) :
    (ss.set name s).get? other = if other = name then some s else ss.get? other := by
  induction ss with
  | nil => rw [set, get?_cons]
  | cons entry rest ih =>
    obtain ⟨n, t⟩ := entry
    by_cases hn : n = name
    · rw [set, if_pos hn, get?_cons, get?_cons, hn]
      by_cases h : other = name
      · rw [if_pos h, if_pos h]
      · rw [if_neg h, if_neg h, if_neg h]
    · rw [set, if_neg hn, get?_cons, ih, get?_cons]
      by_cases h : other = n
      · rw [if_pos h, if_pos h, if_neg (h ▸ hn)]
      · rw [if_neg h, if_neg h]

@[simp] theorem get?_set_self (ss : Sessions) (name : String) (s : Session) :
    (ss.set name s).get? name = some s := by
  rw [get?_set, if_pos rfl]

/-- What a commit that succeeds does. -/
theorem commit_eq_ok {ss after : Sessions} {c : OtherCommit} (h : ss.commit c = .ok after) :
    ∃ s fresh, ss.get? c.name = some s ∧ c.fresh = .ok fresh ∧
      after = ss.set c.name (s.replaced fresh) := by
  rw [commit] at h
  cases hs : ss.get? c.name with
  | none => rw [hs] at h; cases h
  | some s =>
    rw [hs] at h
    cases hfresh : c.fresh with
    | error defect => rw [hfresh] at h; cases h
    | ok fresh =>
      rw [hfresh] at h
      cases h
      exact ⟨s, fresh, rfl, rfl, rfl⟩

/-- What commits in their order, up to one that fails, put in place of one session. -/
def landed (ss : Sessions) (name : String) : List OtherCommit → List Session
  | [] => []
  | c :: cs =>
    match ss.commit c with
    | .ok after =>
      (if c.name = name then c.fresh.toOption.toList else []) ++ landed after name cs
    | .error _ => []

end Sessions

/-! ## One session -/

namespace Session

/-- The session after it was replaced by one session after the other. -/
def after (s : Session) (fresh : List Session) : Session :=
  fresh.foldl replaced s

@[simp] theorem after_nil (s : Session) : s.after [] = s := rfl

@[simp] theorem after_cons (s fresh : Session) (rest : List Session) :
    s.after (fresh :: rest) = (s.replaced fresh).after rest := rfl

theorem after_append (s : Session) (fresh more : List Session) :
    s.after (fresh ++ more) = (s.after fresh).after more :=
  List.foldl_append

/-- The version counts the replacements. -/
theorem version_after (s : Session) (fresh : List Session) :
    (s.after fresh).version = s.version + fresh.length := by
  induction fresh generalizing s with
  | nil => simp
  | cons f rest ih =>
    rw [after_cons, ih, replaced, List.length_cons]
    push_cast
    omega

/-- The credentials are those of the last replacement. -/
theorem credentials_after (s : Session) (fresh : List Session) :
    (s.after fresh).credentials = (fresh.getLast?.getD s).credentials := by
  induction fresh generalizing s with
  | nil => rfl
  | cons f rest ih =>
    rw [after_cons, ih, List.getLast?_cons]
    cases rest.getLast? <;> rfl

theorem version_after_eq_iff (s : Session) (fresh : List Session) :
    (s.after fresh).version = s.version ↔ fresh = [] := by
  rw [version_after, ← List.length_eq_zero_iff]
  omega

end Session

/-- Commits by others change a session as the ones that landed on it say. -/
theorem Sessions.get?_commitAll {ss : Sessions} {name : String} {s : Session}
    (cs : List OtherCommit) (h : ss.get? name = some s) :
    (ss.commitAll cs).2.get? name = some (s.after (ss.landed name cs)) := by
  induction cs generalizing ss s with
  | nil => exact h
  | cons c cs ih =>
    rw [commitAll, landed]
    cases hc : ss.commit c with
    | error defect => exact h
    | ok next =>
      obtain ⟨t, fresh, ht, hfresh, rfl⟩ := commit_eq_ok hc
      by_cases hname : c.name = name
      · -- it lands on the session, and the rest on what it leaves
        subst hname
        rw [h] at ht
        cases ht
        simp [hfresh, Except.toOption, ih (get?_set_self ss c.name (s.replaced fresh))]
      · -- it lands elsewhere, which the session does not notice
        have hget : (ss.set c.name (t.replaced fresh)).get? name = some s := by
          rw [get?_set, if_neg (Ne.symm hname), h]
        simp only [if_neg hname, List.nil_append]
        exact ih hget

/-! ## Requests -/

namespace World

/-- What is put in place of a session while the next request is in flight. -/
def inFlight (w : World) (name : String) : List Session :=
  match w.deliveries with
  | [] => []
  | d :: _ => w.sessions.landed name d.commits

@[simp] theorem pass_sent (w : World) (d : Delivery) : (w.pass d).2.sent = w.sent := by
  rw [pass]
  rcases w.sessions.commitAll d.commits with ⟨_ | _, after⟩ <;> rfl

theorem pass_sessions (w : World) (d : Delivery) :
    (w.pass d).2.sessions = (w.sessions.commitAll d.commits).2 := by
  rw [pass]
  rcases w.sessions.commitAll d.commits with ⟨_ | _, after⟩ <;> rfl

theorem send_sent (w : World) (r : Request) : (w.send r).2.sent = w.sent ++ [w.dress r] := by
  rw [send]
  split
  · rfl
  · simp only [pass_sent]

/-- An answer was the outcome of the next delivery, and the clock stands where that put it. -/
theorem send_answered {w : World} {r : Request} {response : Response}
    (h : (w.send r).1 = .ok (.answered response)) :
    ∃ d rest, w.deliveries = d :: rest ∧ d.outcome = .answered response ∧
      (w.send r).2.now = d.advanceTo.getD w.now := by
  rw [send] at h ⊢
  cases hd : w.deliveries with
  | nil => rw [hd] at h; cases h
  | cons d rest =>
    rw [hd] at h
    simp only [pass] at h ⊢
    refine ⟨d, rest, rfl, ?_⟩
    rcases hcommits : w.sessions.commitAll d.commits with ⟨_ | _, sessions⟩
    · rw [hcommits] at h; cases h
    · rw [hcommits] at h
      exact ⟨by simpa using h, rfl⟩

theorem deliveries_of_send_answered {w : World} {r : Request} {response : Response}
    (h : (w.send r).1 = .ok (.answered response)) :
    ∃ d rest, w.deliveries = d :: rest ∧ d.outcome = .answered response := by
  obtain ⟨d, rest, hd, houtcome, -⟩ := send_answered h
  exact ⟨d, rest, hd, houtcome⟩

/-- What is left of a session after a request, whatever its outcome. -/
theorem send_session {w : World} {name : String} {s : Session} (r : Request)
    (h : w.sessions.get? name = some s) :
    (w.send r).2.sessions.get? name = some (s.after (w.inFlight name)) := by
  rw [send, inFlight]
  cases hd : w.deliveries with
  | nil => exact h
  | cons d rest =>
    simp only [pass_sessions]
    exact Sessions.get?_commitAll d.commits h

end World

end SessionGate
