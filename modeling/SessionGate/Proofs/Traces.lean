import SessionGate.Proofs.Members
import SessionGate.Proofs.Perform
import SessionGate.Proofs.Recording
import SessionGate.Provider
import SessionGate.Service.Serving

/-!
# What actions leave behind

An action is followed by what it leaves in the collector of a service and in the log:
`World.Leaves` names the calls it has made on the collector, and says that no line was written about
a request. Leaving behind is transitive, with the calls of both one after the other, so
`Action.Does` can be proved along the lines of an action: it says what the calls have to do with the
result.

An action that makes no calls is silent. All operations of a provider are, so what is counted is
counted by the endpoints.
-/

namespace SessionGate

/-! ## Lines -/

def Service.requestEvent : String := "HTTP request"

/-- Whether a line tells of a request. -/
def Journal.tellsRequest (line : Members) : Bool :=
  match line.get? "event" with
  | some (.str event) => event = Service.requestEvent
  | _ => false

namespace LogEntry

/-- Adding the service keeps all members of another name. -/
theorem get?_addService {event added : Members} {name : Text} (hname : name ≠ "service")
    (h : addService event = .ok added) : added.get? name = event.get? name := by
  unfold addService at h
  split at h
  · cases h
    rfl
  · split at h
    · cases h
      rw [Members.get?_insert, if_neg hname]
    · cases h
      rfl
  · split at h
    · cases h
    · cases h
      rfl
  · split at h
    · cases h
    · cases h
      rfl
  · cases h

theorem get?_addContext (context : LogContext) (event : Members) {name : Text}
    (hrequest : name ≠ "request_id") (huser : name ≠ "user") :
    (addContext context event).get? name = event.get? name := by
  have hkept (ms : Members) :
      (if context.user.isSet && !ms.has "user" then ms.insert "user" context.user else ms).get?
        name = ms.get? name := by
    split
    · rw [Members.get?_insert, if_neg huser]
    · rfl
  unfold addContext
  split
  · exact (hkept _).trans (by rw [Members.get?_insert, if_neg hrequest])
  · exact hkept event

/-- The event of an entry stands in its line. -/
theorem get?_event_line {e : LogEntry} {event : Text} (h : e.event = .str event)
    (context : LogContext) : (e.line context).get? "event" = some (.str event) := by
  have hnull : e.event.isNull = false := by
    rw [h]
    rfl
  have htaken (fields : Members) (logger level : Json) :
      ((((fields.insert "event" e.event).insert "logger" logger).insert "level" level).get?
        "event") = some (.str event) := by
    rw [Members.get?_insert, if_neg (by decide), Members.get?_insert, if_neg (by decide),
      Members.get?_insert, if_pos rfl, h]
  rw [line]
  simp only [hnull, Bool.false_eq_true, if_false, timings, List.foldl_cons, List.foldl_nil]
  rw [Members.get?_erase, if_neg (by decide), Members.get?_erase, if_neg (by decide),
    get?_addContext _ _ (by decide) (by decide)]
  -- the members that follow are added, and the event stays what it is among those
  generalize hevent : ((e.fields.insert "event" e.event).insert "logger" _).insert "level" _ = ms
  have hms : ms.get? "event" = some (.str event) := by
    rw [← hevent]
    exact htaken _ _ _
  cases hadded : addService ms with
  | error defect => exact hms
  | ok added => exact (get?_addService (by decide) hadded).trans hms

def IsQuiet (e : LogEntry) : Prop :=
  ∃ event : Text, e.event = .str event ∧ event ≠ Service.requestEvent

end LogEntry

/-! ## Worlds -/

/-- Between two worlds calls were made on a collector, and nothing was logged about a request. -/
structure World.Leaves (key : CollectorKey) (calls : List RecordCall) (w after : World) : Prop where
  collectors : after.collectors = w.collectors.update key (·.recordAll calls)
  lines : ∃ more, after.journal.lines = w.journal.lines ++ more ∧
    ∀ line ∈ more, Journal.tellsRequest line = false
  threshold : after.journal.threshold = w.journal.threshold
  hasOutput : after.journal.hasOutput = w.journal.hasOutput

namespace World

variable {key : CollectorKey} {calls more : List RecordCall} {w v u : World}

/-- Nothing is left where neither the collectors nor the journal are touched. -/
theorem leaves_of_eq (hcollectors : v.collectors = w.collectors)
    (hjournal : v.journal = w.journal) : w.Leaves key [] v where
  collectors := by
    rw [hcollectors]
    exact (Collectors.update_id _ _).symm
  lines := ⟨[], by rw [hjournal, List.append_nil], fun _ h ↦ (nomatch h)⟩
  threshold := by rw [hjournal]
  hasOutput := by rw [hjournal]

theorem Leaves.trans (h : w.Leaves key calls v) (h' : v.Leaves key more u) :
    w.Leaves key (calls ++ more) u where
  collectors := by
    rw [h'.collectors, h.collectors, Collectors.update_update]
    simp only [Collector.recordAll_append]
  lines := by
    obtain ⟨lines, hlines, hquiet⟩ := h.lines
    obtain ⟨lines', hlines', hquiet'⟩ := h'.lines
    refine ⟨lines ++ lines', ?_, ?_⟩
    · rw [hlines', hlines, List.append_assoc]
    · intro line hline
      rcases List.mem_append.mp hline with hline | hline
      · exact hquiet line hline
      · exact hquiet' line hline
  threshold := h'.threshold.trans h.threshold
  hasOutput := h'.hasOutput.trans h.hasOutput

theorem leaves_write {e : LogEntry} (h : e.IsQuiet) : w.Leaves key [] (w.written [e]) := by
  obtain ⟨event, hevent, hne⟩ := h
  have hjournal : (w.written [e]).journal = w.journal.write e := rfl
  have hcollectors := (Collectors.update_id w.collectors key).symm
  by_cases hwritten : (w.journal.hasOutput && w.journal.admits e) = true
  · rw [Journal.write, if_pos hwritten] at hjournal
    refine ⟨hcollectors, ⟨[e.line w.journal.context], ?_, ?_⟩, ?_, ?_⟩
    · rw [hjournal]
    · intro line hline
      rw [List.mem_singleton.mp hline, Journal.tellsRequest, LogEntry.get?_event_line hevent]
      exact decide_eq_false hne
    · rw [hjournal]
    · rw [hjournal]
  · rw [Journal.write, if_neg hwritten] at hjournal
    exact leaves_of_eq rfl hjournal

theorem leaves_written {entries : List LogEntry} (h : ∀ e ∈ entries, e.IsQuiet) :
    w.Leaves key [] (w.written entries) := by
  induction entries generalizing w with
  | nil => exact leaves_of_eq rfl rfl
  | cons e entries ih =>
    have hfirst : w.Leaves key [] (w.written [e]) := leaves_write (h e List.mem_cons_self)
    exact hfirst.trans (ih fun e' he' ↦ h e' (List.mem_cons_of_mem _ he'))

/-- While a request is in flight, others commit and time passes, and that is all. -/
theorem send_kept (w : World) (r : Request) :
    (w.send r).2.collectors = w.collectors ∧ (w.send r).2.journal = w.journal := by
  rw [send]
  cases w.deliveries with
  | nil => exact ⟨rfl, rfl⟩
  | cons d rest =>
    simp only [pass]
    rcases w.sessions.commitAll d.commits with ⟨_ | _, sessions⟩ <;> exact ⟨rfl, rfl⟩

theorem leaves_count (call : RecordCall) :
    w.Leaves key [call]
      { w with collectors := w.collectors.update key fun c ↦ c.record call } where
  collectors := rfl
  lines := ⟨[], (List.append_nil _).symm, fun _ h ↦ (nomatch h)⟩
  threshold := rfl
  hasOutput := rfl

end World

/-! ## Actions -/

namespace Action

variable {α β : Type}

/-- How an action is performed that goes on after a failure. -/
theorem perform_tryCatch (x : Action α) (handle : Failure → Action α) (w : World) :
    perform (tryCatch x handle) w =
      match perform x w with
      | (.ok a, after) => (.ok a, after)
      | (.error failure, after) => perform (handle failure) after := by
  simp only [perform, tryCatch, tryCatchThe, MonadExceptOf.tryCatch, ExceptT.tryCatch,
    ExceptT.run, ExceptT.mk, StateT.run_bind]
  rcases StateT.run x w with ⟨_ | _, after⟩ <;> rfl

@[simp] theorem perform_modify (f : World → World) (w : World) :
    perform (modify f) w = (.ok (), f w) := rfl

/-- Whatever world an action begins in, it leaves calls behind that have to do with its result in
the way that is said. -/
def Does (key : CollectorKey) (x : Action α)
    (post : Except Failure α → List RecordCall → Prop) : Prop :=
  ∀ w, ∃ calls, post (x.perform w).1 calls ∧ w.Leaves key calls (x.perform w).2

/-- The action makes no calls. -/
def IsSilent (key : CollectorKey) (x : Action α) : Prop :=
  x.Does key fun _ calls ↦ calls = []

variable {key : CollectorKey} {x : Action α} {f : α → Action β}

section Does

variable {post : Except Failure α → List RecordCall → Prop}

theorem Does.mono {weaker : Except Failure α → List RecordCall → Prop} (h : x.Does key post)
    (himp : ∀ result calls, post result calls → weaker result calls) : x.Does key weaker := by
  intro w
  obtain ⟨calls, hpost, hleaves⟩ := h w
  exact ⟨calls, himp _ _ hpost, hleaves⟩

/-- What is said of the rest begins with the calls that were made before it. -/
theorem Does.bind {post : Except Failure β → List RecordCall → Prop}
    (h : x.Does key fun result calls ↦
      match result with
      | .ok a => (f a).Does key fun result more ↦ post result (calls ++ more)
      | .error failure => post (.error failure) calls) :
    (x >>= f).Does key post := by
  intro w
  obtain ⟨calls, hpost, hleaves⟩ := h w
  rw [perform_bind]
  rcases hx : perform x w with ⟨failure | a, after⟩
  · rw [hx] at hpost hleaves
    exact ⟨calls, hpost, hleaves⟩
  · rw [hx] at hpost hleaves
    obtain ⟨more, hrest, hmore⟩ := hpost after
    exact ⟨calls ++ more, hrest, hleaves.trans hmore⟩

theorem Does.tryCatch {handle : Failure → Action α}
    (h : x.Does key fun result calls ↦
      match result with
      | .ok a => post (.ok a) calls
      | .error failure => (handle failure).Does key fun result more ↦ post result (calls ++ more)) :
    (tryCatch x handle).Does key post := by
  intro w
  obtain ⟨calls, hpost, hleaves⟩ := h w
  rw [perform_tryCatch]
  rcases hx : perform x w with ⟨failure | a, after⟩
  · rw [hx] at hpost hleaves
    obtain ⟨more, hrest, hmore⟩ := hpost after
    exact ⟨calls ++ more, hrest, hleaves.trans hmore⟩
  · rw [hx] at hpost hleaves
    exact ⟨calls, hpost, hleaves⟩

/-- An action that changes neither collectors nor journal. -/
theorem does_of_kept (h : ∀ w, (x.perform w).2.collectors = w.collectors ∧
      (x.perform w).2.journal = w.journal ∧ post (x.perform w).1 []) : x.Does key post :=
  fun w ↦ ⟨[], (h w).2.2, World.leaves_of_eq (h w).1 (h w).2.1⟩

theorem does_pure {a : α} (h : post (.ok a) []) : (pure a : Action α).Does key post :=
  does_of_kept fun _ ↦ ⟨rfl, rfl, h⟩

theorem does_escape {defect : Defect} (h : post (.error (.defect defect)) []) :
    (escape defect : Action α).Does key post :=
  does_of_kept fun _ ↦ ⟨rfl, rfl, h⟩

theorem does_refuse {error : AccessError} (h : post (.error (.refused error)) []) :
    (refuse error : Action α).Does key post :=
  does_of_kept fun _ ↦ ⟨rfl, rfl, h⟩

theorem does_count {call : RecordCall} {post : Except Failure Unit → List RecordCall → Prop}
    (h : post (.ok ()) [call]) : (count key fun c ↦ c.record call).Does key post :=
  fun _ ↦ ⟨[call], h, World.leaves_count call⟩

theorem IsSilent.does (hx : x.IsSilent key) (h : ∀ result, post result []) : x.Does key post := by
  refine Does.mono hx fun result calls hcalls ↦ ?_
  rw [hcalls]
  exact h result

end Does

/-! ## Silent actions -/

theorem isSilent_bind (hx : x.IsSilent key) (hf : ∀ a, (f a).IsSilent key) :
    (x >>= f).IsSilent key := by
  refine Does.bind (hx.does fun result ↦ ?_)
  cases result with
  | error failure => rfl
  | ok a => exact hf a

theorem isSilent_pure (a : α) : (pure a : Action α).IsSilent key := does_pure rfl

theorem isSilent_escape (defect : Defect) : (escape defect : Action α).IsSilent key :=
  does_escape rfl

theorem isSilent_refuse (error : AccessError) : (refuse error : Action α).IsSilent key :=
  does_refuse rfl

theorem isSilent_get : (get : Action World).IsSilent key :=
  does_of_kept fun _ ↦ ⟨rfl, rfl, rfl⟩

theorem isSilent_now : now.IsSilent key :=
  does_of_kept fun _ ↦ ⟨rfl, rfl, rfl⟩

theorem isSilent_lift (y : Except Failure α) : (lift y).IsSilent key :=
  does_of_kept fun w ↦ by
    rw [perform_lift]
    exact ⟨rfl, rfl, rfl⟩

theorem isSilent_liftDefect (y : Except Defect α) : (liftDefect y).IsSilent key :=
  does_of_kept fun w ↦ by
    rw [perform_liftDefect]
    exact ⟨rfl, rfl, rfl⟩

theorem isSilent_mapError (g : AccessError → AccessError) (hx : x.IsSilent key) :
    (mapError g x).IsSilent key := by
  intro w
  obtain ⟨calls, hcalls, hleaves⟩ := hx w
  rw [perform_mapError]
  exact ⟨calls, hcalls, hleaves⟩

theorem isSilent_logAll {entries : List LogEntry} (h : ∀ e ∈ entries, e.IsQuiet) :
    (logAll entries).IsSilent key :=
  fun _ ↦ ⟨[], rfl, World.leaves_written h⟩

theorem isSilent_log {entry : LogEntry} (h : entry.IsQuiet) : (log entry).IsSilent key :=
  fun _ ↦ ⟨[], rfl, World.leaves_write h⟩

theorem isSilent_session (name : String) : (session name).IsSilent key :=
  does_of_kept fun w ↦ by
    rw [perform_session]
    cases w.sessions.get? name <;> exact ⟨rfl, rfl, rfl⟩

theorem isSilent_setSession (name : String) (s : Session) : (setSession name s).IsSilent key :=
  does_of_kept fun _ ↦ ⟨rfl, rfl, rfl⟩

theorem isSilent_send (request : Request) : (send request).IsSilent key :=
  does_of_kept fun w ↦ by
    rw [perform_send]
    cases request.destination with
    | error defect => exact ⟨rfl, rfl, rfl⟩
    | ok url =>
      by_cases hclosed : w.isClosed = true
      · simp only [if_pos hclosed]
        exact ⟨trivial, trivial, trivial⟩
      · simp only [if_neg hclosed]
        exact ⟨(w.send_kept _).1, (w.send_kept _).2, trivial⟩

end Action

/-! ## Operations of a provider -/

section Quiet

variable {key : CollectorKey}

theorem TokenEndpoint.isQuiet_of_mem_report {grant : Grant} {receivedAt : Moment}
    {reply : Except NetworkFault Response} {e : LogEntry} (h : e ∈ report grant receivedAt reply) :
    e.IsQuiet := by
  unfold report entries at h
  split at h
  · rw [List.mem_singleton.mp h]
    exact ⟨_, rfl, by decide⟩
  · split at h
    · rw [List.mem_singleton.mp h]
      exact ⟨_, rfl, by decide⟩
    · rw [List.mem_singleton.mp h]
      exact ⟨_, rfl, by decide⟩
    · cases h

theorem VerificationFault.isQuiet_of_mem_entries {fault : VerificationFault} {e : LogEntry}
    (h : e ∈ fault.entries) : e.IsQuiet := by
  unfold entries at h
  split at h
  · rw [List.mem_singleton.mp h]
    exact ⟨_, rfl, by decide⟩
  · split at h
    · rw [List.mem_singleton.mp h]
      exact ⟨_, rfl, by decide⟩
    · cases h

theorem ProjectionFault.isQuiet_of_mem_entries {fault : ProjectionFault} {e : LogEntry}
    (h : e ∈ fault.entries) : e.IsQuiet := by
  unfold entries at h
  split at h
  · exact VerificationFault.isQuiet_of_mem_entries h
  · cases h

theorem Provider.Decision.isQuiet_of_mem_entries {policy : GroupPolicy} {email : Json}
    {decision : Decision} {e : LogEntry} (h : e ∈ decision.entries policy email) : e.IsQuiet := by
  unfold entries at h
  split at h
  · split at h
    · rcases List.mem_append.mp h with h | h
      · exact VerificationFault.isQuiet_of_mem_entries h
      · rw [List.mem_singleton.mp h]
        exact ⟨_, rfl, by decide⟩
    · exact VerificationFault.isQuiet_of_mem_entries h
  · rw [List.mem_singleton.mp h]
    exact ⟨_, rfl, by decide⟩
  · cases h

open SessionGate.Action

theorem TokenEndpoint.isSilent_exchange (e : TokenEndpoint) (grant : Grant) :
    (e.exchange grant).IsSilent key := by
  refine isSilent_bind (isSilent_send _) fun reply ↦ ?_
  refine isSilent_bind isSilent_now fun now ↦ ?_
  refine isSilent_bind (isSilent_logAll fun _ h ↦ isQuiet_of_mem_report h) fun _ ↦ ?_
  exact isSilent_lift _

theorem Userinfo.isSilent_fetchEmail (u : Userinfo) (token : Json) :
    (u.fetchEmail token).IsSilent key := by
  refine isSilent_bind (isSilent_send _) fun reply ↦ ?_
  cases reply with
  | error fault =>
    exact isSilent_bind (isSilent_log ⟨_, rfl, by decide⟩) fun _ ↦ isSilent_refuse _
  | ok response =>
    refine isSilent_bind (isSilent_logAll fun e he ↦ ?_) fun _ ↦ isSilent_lift _
    unfold entries at he
    split at he
    · rw [List.mem_singleton.mp he]
      exact ⟨_, rfl, by decide⟩
    · cases he

namespace Provider

variable (p : Provider)

theorem isSilent_createSession (bundle : TokenBundle) : (p.createSession bundle).IsSilent key := by
  refine isSilent_bind isSilent_now fun now ↦ ?_
  cases p.project now.seconds bundle with
  | ok s => exact isSilent_pure s
  | error fault =>
    refine isSilent_bind (isSilent_logAll fun _ h ↦ ?_) fun _ ↦ isSilent_lift _
    exact ProjectionFault.isQuiet_of_mem_entries h

theorem isSilent_redeem (redirectUrl code : Text) : (p.redeem redirectUrl code).IsSilent key :=
  isSilent_bind (isSilent_mapError _ (TokenEndpoint.isSilent_exchange _ _)) fun bundle ↦
    isSilent_mapError _ (p.isSilent_createSession bundle)

theorem isSilent_redeemRefresh (pending : PendingRefresh) :
    (p.redeemRefresh pending).IsSilent key :=
  isSilent_bind (isSilent_mapError _ (TokenEndpoint.isSilent_exchange _ _)) fun bundle ↦
    isSilent_mapError _ (p.isSilent_createSession bundle)

theorem isSilent_refreshIfNeeded (name : Option String) :
    (p.refreshIfNeeded name).IsSilent key := by
  cases name with
  | none => exact isSilent_pure false
  | some name =>
    refine isSilent_bind (isSilent_session name) fun before ↦ ?_
    refine isSilent_bind isSilent_now fun now ↦ ?_
    refine isSilent_bind (isSilent_liftDefect _) fun begun ↦ ?_
    cases begun with
    | none => exact isSilent_pure false
    | some pending =>
      refine isSilent_bind (p.isSilent_redeemRefresh pending) fun fresh ↦ ?_
      refine isSilent_bind (isSilent_session name) fun landed ↦ ?_
      cases pending.finish landed fresh with
      | error error => exact isSilent_refuse error
      | ok after =>
        refine isSilent_bind (isSilent_setSession name after) fun _ ↦ ?_
        refine isSilent_bind (isSilent_liftDefect _) fun expiredOn ↦ ?_
        refine isSilent_bind (isSilent_liftDefect _) fun expiresOn ↦ ?_
        exact isSilent_bind (isSilent_log ⟨_, rfl, by decide⟩) fun _ ↦ isSilent_pure true

theorem isSilent_validateSession (s : Session) : (p.validateSession s).IsSilent key := by
  refine isSilent_bind isSilent_now fun now ↦ ?_
  cases p.verifier.check now.seconds s.idToken with
  | ok claims => exact isSilent_pure true
  | error fault =>
    refine isSilent_bind
      (isSilent_logAll fun _ h ↦ VerificationFault.isQuiet_of_mem_entries h) fun _ ↦ ?_
    cases fault.toFailure with
    | refused error => exact isSilent_pure false
    | defect defect => exact isSilent_escape defect

theorem isSilent_validateGroup (s : Session) : (p.validateGroup s).IsSilent key := by
  refine isSilent_bind isSilent_get fun w ↦ ?_
  refine isSilent_bind isSilent_now fun now ↦ ?_
  refine isSilent_bind (isSilent_logAll fun _ h ↦ Decision.isQuiet_of_mem_entries h) fun _ ↦ ?_
  exact isSilent_liftDefect _

theorem isSilent_emailAddress (s : Session) : (p.emailAddress s).IsSilent key :=
  Userinfo.isSilent_fetchEmail _ _

end Provider

end Quiet

end SessionGate
