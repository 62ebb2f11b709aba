import SessionGate.Proofs.Steps
import SessionGate.World

/-!
# Performing actions

An action is performed on a world and ends with a value or a failure and with the world it leaves.
For every way of building an action there is one equation here that says how it is performed, so
that what an operation does is read off by rewriting, one line of the operation after the other, and
nothing has to be known about the monad.

A failure ends an action and undoes nothing: in `perform_bind` the world that a failure leaves is
the world of the whole.
-/

namespace SessionGate

/-! ## What is written to the journal -/

/-- The world with entries written to its journal. -/
def World.written (w : World) (entries : List LogEntry) : World :=
  { w with journal := entries.foldl Journal.write w.journal }

namespace World

variable (w : World) (entries : List LogEntry)

@[simp] theorem written_sessions : (w.written entries).sessions = w.sessions := rfl

@[simp] theorem written_sent : (w.written entries).sent = w.sent := rfl

@[simp] theorem written_now : (w.written entries).now = w.now := rfl

theorem written_written (more : List LogEntry) :
    (w.written entries).written more = w.written (entries ++ more) := by
  rw [written, written, written, List.foldl_append]

end World

/-! ## What goes out -/

/-- A form can be written if no surrogate stands in it. -/
theorem Form.isSome_encode? (form : Form) :
    (encode? form).isSome = form.all fun p ↦ p.1.isPlain && p.2.isPlain := by
  have hpair (p : Text × Text) : (encodePair? p).isSome = (p.1.isPlain && p.2.isPlain) := by
    obtain ⟨name, value⟩ := p
    cases name <;> cases value <;> rfl
  have hparts : (form.mapM encodePair?).isSome = form.all fun p ↦ (encodePair? p).isSome := by
    induction form with
    | nil => rfl
    | cons p form ih =>
      rw [List.mapM_cons, List.all_cons, ← ih]
      cases encodePair? p <;> cases form.mapM encodePair? <;> rfl
  rw [encode?, Option.isSome_map, hparts]
  simp only [hpair]

/-- A request goes out if it has a URL, headers of ASCII and a body. -/
theorem Request.destination_eq_ok_iff {r : Request} {destination : Url} :
    r.destination = .ok destination ↔
      ∃ url body, Url.ofText? r.url = some url ∧ r.isSendable = true ∧ r.content? = some body ∧
        url.destination = destination := by
  rw [Request.destination]
  cases Url.ofText? r.url with
  | none => simp
  | some url =>
    cases r.isSendable with
    | false => simp
    | true => cases r.content? <;> simp

/-- Where a request goes does not depend on what its form says, as long as that can be written. -/
theorem Request.destination_congr {r r' : Request} (h : r' = { r with form := r'.form })
    (hcontent : r'.content?.isSome = r.content?.isSome) : r'.destination = r.destination := by
  have hurl : r'.url = r.url := by rw [h]
  have hsendable : r'.isSendable = r.isSendable := by
    rw [h]
    rfl
  rw [destination, destination, hurl, hsendable, ← Option.not_isSome, ← Option.not_isSome,
    hcontent]

/-! ## Ways of building an action -/

namespace Action

variable {α β : Type}

@[simp] theorem perform_pure (a : α) (w : World) : perform (pure a) w = (.ok a, w) := rfl

theorem perform_bind (x : Action α) (f : α → Action β) (w : World) :
    perform (x >>= f) w =
      match perform x w with
      | (.ok a, after) => perform (f a) after
      | (.error failure, after) => (.error failure, after) := by
  simp only [perform, ExceptT.run_bind, StateT.run_bind]
  rcases x.run.run w with ⟨_ | _, after⟩ <;> rfl

@[simp] theorem perform_get (w : World) : perform get w = (.ok w, w) := rfl

@[simp] theorem perform_set (w v : World) : perform (set v) w = (.ok (), v) := rfl

@[simp] theorem perform_refuse (error : AccessError) (w : World) :
    perform (refuse error : Action α) w = (.error (.refused error), w) := rfl

@[simp] theorem perform_escape (defect : Defect) (w : World) :
    perform (escape defect : Action α) w = (.error (.defect defect), w) := rfl

@[simp] theorem perform_lift (x : Except Failure α) (w : World) : perform (lift x) w = (x, w) := by
  cases x <;> rfl

@[simp] theorem perform_liftDefect (x : Except Defect α) (w : World) :
    perform (liftDefect x) w = (x.mapError .defect, w) := by
  cases x <;> rfl

/-- Changing errors changes the failure of an action and nothing it does. -/
theorem perform_mapError (f : AccessError → AccessError) (x : Action α) (w : World) :
    perform (mapError f x) w = ((perform x w).1.mapError (Failure.map f), (perform x w).2) := by
  simp only [perform, mapError, tryCatch, tryCatchThe, MonadExceptOf.tryCatch, ExceptT.tryCatch,
    ExceptT.run, ExceptT.mk, StateT.run_bind]
  rcases StateT.run x w with ⟨_ | _, after⟩ <;> rfl

@[simp] theorem perform_now (w : World) : perform now w = (.ok w.now, w) := rfl

@[simp] theorem perform_log (entry : LogEntry) (w : World) :
    perform (log entry) w = (.ok (), w.written [entry]) := rfl

@[simp] theorem perform_logAll (entries : List LogEntry) (w : World) :
    perform (logAll entries) w = (.ok (), w.written entries) := rfl

@[simp] theorem perform_setSession (name : String) (s : Session) (w : World) :
    perform (setSession name s) w = (.ok (), { w with sessions := w.sessions.set name s }) := rfl

theorem perform_session (name : String) (w : World) :
    perform (session name) w =
      match w.sessions.get? name with
      | some s => (.ok s, w)
      | none => (.error (.defect .noSession), w) := by
  rw [session, perform_bind, perform_get]
  simp only
  cases w.sessions.get? name <;> rfl

theorem perform_session_of_some {name : String} {w : World} {s : Session}
    (h : w.sessions.get? name = some s) : perform (session name) w = (.ok s, w) := by
  rw [perform_session, h]

/-- A request is sent unless its URL, its headers or the connection forbid it. -/
theorem perform_send (request : Request) (w : World) :
    perform (send request) w =
      match request.destination with
      | .error defect => (.error (.defect defect), w)
      | .ok url =>
        if w.isClosed then (.error (.defect .clientClosed), w)
        else
          (((w.send (request.sentTo url)).1.bind (·.reply url)).mapError .defect,
            (w.send (request.sentTo url)).2) := by
  rw [send, perform_bind, perform_liftDefect]
  cases request.destination with
  | error defect => rfl
  | ok url =>
    simp only [mapError_ok, perform_bind, perform_get]
    by_cases hclosed : w.isClosed = true
    · rw [if_pos hclosed, if_pos hclosed, perform_escape]
    · rw [if_neg hclosed, if_neg hclosed]
      rcases w.send (request.sentTo url) with ⟨outcome, after⟩
      rw [perform_bind, perform_set]
      simp only [perform_bind, perform_liftDefect]
      cases outcome <;> rfl

end Action

end SessionGate
