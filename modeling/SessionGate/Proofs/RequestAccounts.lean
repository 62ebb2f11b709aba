import SessionGate.Proofs.Accounting
import SessionGate.Proofs.Refresh

/-!
# Every request is accounted for, unless the service fails

A run of requests is `Service.serveAll`: each finds the world that the one before has left, with a
clock and deliveries of its own. The `Account` of a request says how it ended. A request that was
answered has its identifier in the answer, one line in the log and one count for the status it was
answered with, and one for its operation; a request on which the service failed has nothing of that
but, at most, the count of its operation. `Service.serveAll_accounts` says so for all requests of a
run at once: the lines, the counts and the responses are those of the accounts.

## Where a failure comes from

An account has a defect exactly if performing `Service.answer` ends with one. Errors are answers,
so this is a fault that no operation answers for: a lifetime past what can be represented, a URL
that is none, a session that has no text in JSON.
-/

namespace SessionGate

/-! ## Requests in the log and in the counts -/

def Journal.requestLines (j : Journal) : List Members :=
  j.lines.filter tellsRequest

def World.countOf (w : World) (service : String) (counter : Counter) (labels : List Text) : Nat :=
  ((w.collectors.get? (.shared service)).map fun c ↦ c.countOf counter labels).getD 0

/-- The service has its collector. -/
def World.IsMetered (w : World) (service : String) : Prop :=
  ∃ c, w.collectors.get? (.shared service) = some c ∧ c.service = service

namespace RecordCall

/-- Only the calls for requests raise the counts of requests. -/
theorem countP_requests (service : String) (labels : List Text) (calls : List RecordCall) :
    calls.countP (fun call ↦ decide (call.counted? service = some (.requests, labels))) =
      (calls.filter isRequest).countP fun call ↦
        decide (call.counted? service = some (.requests, labels)) := by
  rw [List.countP_filter]
  refine List.countP_congr fun call _ ↦ ?_
  cases call with
  | request method endpoint status duration => simp [isRequest]
  | operation name outcome => simp [counted?]
  | _ => simp [counted?]

/-- The counts of operations are the numbers of the operations that were recorded. -/
theorem countP_operations (name outcome : Text) (calls : List RecordCall) :
    calls.countP (fun call ↦
        decide (call.counted? Service.sessionsName = some (.authOperations, [name, outcome]))) =
      (operations calls).count (name, outcome) := by
  induction calls with
  | nil => rfl
  | cons call calls ih =>
    rw [operations] at ih
    rw [List.countP_cons, ih, operations, List.filterMap_cons]
    cases call with
    | operation word ending =>
      simp only [operation?, List.count_cons]
      have hauth : (operation word ending).counted? Service.sessionsName =
          some (.authOperations, [word, ending]) := rfl
      simp [hauth]
    | _ => simp [operation?, counted?]

end RecordCall

namespace Service

/-! ## Services with a collector -/

/-- The collector that a service asks for is its own. -/
theorem service_of_obtain {cs : Collectors} {name : String}
    (h : ∀ c, cs.get? (.shared name) = some c → c.service = name) :
    (cs.obtain name none).1 = .ok (.shared name) ∧
      ∃ c, (cs.obtain name none).2.get? (.shared name) = some c ∧ c.service = name := by
  rw [Collectors.obtain]
  cases hget : cs.get? (Collectors.keyFor name none) with
  | some c => exact ⟨rfl, c, hget, h c hget⟩
  | none =>
    refine ⟨rfl, { service := name }, ?_, rfl⟩
    have hlookup : cs.lookup (.shared name) = none := hget
    simp [Collectors.get?, Collectors.keyFor, List.lookup_append, hlookup]

theorem isMetered_of_setUp {place : Surroundings} {name : String} {port : Json} {w after : World}
    {s : Service} (hw : ∀ c, w.collectors.get? (.shared name) = some c → c.service = name)
    (h : (setUp place name port).perform w = (.ok s, after)) :
    s.name = name ∧ after.IsMetered name := by
  obtain ⟨hobtained, hmetered⟩ := service_of_obtain hw
  rw [setUp, Action.perform_bind, Action.perform_liftDefect] at h
  cases hread : (Settings.read place.environment place.settingsFile (.str name)
      port).toExcept.mapError Defect.ofFaults with
  | error defect =>
    rw [hread] at h
    cases h
  | ok settings =>
    simp only [hread, mapError_ok, Action.perform_bind, Action.perform_get, Action.perform_set,
      Action.perform_liftDefect, hobtained] at h
    cases hfault : (w.journal.configure settings.logLevel).2 with
    | some defect =>
      simp only [hfault] at h
      cases h
    | none =>
      simp only [hfault] at h
      cases h
      exact ⟨rfl, hmetered⟩

/-- **The service for sessions that is set up has its collector.** -/
theorem isMetered_of_setUpWith {place : Surroundings} {p : Provider} {w after : World} {s : Service}
    (hw : ∀ c, w.collectors.get? (.shared sessionsName) = some c → c.service = sessionsName)
    (h : (setUpWith place p).perform w = (.ok s, after)) :
    s.name = sessionsName ∧ s.provider = some p ∧ after.IsMetered s.name := by
  rw [setUpWith, Action.perform_bind] at h
  rcases hsetUp : (setUp place sessionsName (.int sessionsPort)).perform w with ⟨failure | t, v⟩
  · rw [hsetUp] at h
    cases h
  · obtain ⟨hname, hmetered⟩ := isMetered_of_setUp hw hsetUp
    rw [hsetUp] at h
    cases h
    exact ⟨hname, rfl, hname ▸ hmetered⟩

theorem isMetered_of_setUpSessions {place : Surroundings} {w after : World} {s : Service}
    (hw : ∀ c, w.collectors.get? (.shared sessionsName) = some c → c.service = sessionsName)
    (h : (setUpSessions place).perform w = (.ok s, after)) :
    s.name = sessionsName ∧ s.provider.isSome ∧ after.IsMetered s.name := by
  rw [setUpSessions, Action.perform_bind] at h
  rcases hsetUp : (setUp place sessionsName (.int sessionsPort)).perform w with ⟨failure | t, v⟩
  · rw [hsetUp] at h
    cases h
  · obtain ⟨hname, hmetered⟩ := isMetered_of_setUp hw hsetUp
    rw [hsetUp] at h
    simp only [Action.perform_bind] at h
    rcases hkeys : (t.loadKeys place).perform v with ⟨failure | keys, u⟩
    · rw [hkeys] at h
      cases h
    · have hkept : u.collectors = v.collectors := by
        have hu : ((t.loadKeys place).perform v).2 = u := congrArg Prod.snd hkeys
        rw [← hu, loadKeys]
        split
        · rfl
        · rfl
        · rw [Action.perform_liftDefect]
      rw [hkeys] at h
      cases h
      refine ⟨hname, rfl, ?_⟩
      obtain ⟨c, hc, hservice⟩ := hmetered
      exact ⟨c, by rw [hname]; exact hkept ▸ hc, hservice.trans hname.symm⟩

/-! ## Accounts -/

/-- How a request ended. -/
structure Account where
  request : Http.Request
  response : Http.Response
  /-- The defect that the service failed with. -/
  defect? : Option Defect
  /-- The operations that were counted, with their outcomes. -/
  operations : List (Text × Text)
  /-- The line about the request. -/
  line : Members

namespace Account

def isAnswered (a : Account) : Bool := a.defect?.isNone

/-- The labels under which the request is counted. -/
def labels (a : Account) : List Text :=
  [a.request.method, a.request.shownPath, toString a.response.status]

/-- What is true of the account of a request that found a world. -/
structure Settles (a : Account) (s : Service) (w : World) : Prop where
  /-- The service failed if performing the answer did. -/
  performed : match a.defect? with
    | none => ∃ response, ((s.answer a.request).perform (entered w (requestId a.request))).1 =
        .ok response ∧ response.status = a.response.status
    | some defect => ((s.answer a.request).perform (entered w (requestId a.request))).1 =
        .error (.defect defect)
  /-- An answer has the identifier of its request, once. -/
  identified : a.isAnswered → a.response.headers.filter (·.1 = requestIdHeader) =
    [(requestIdHeader, requestId a.request)]
  /-- The line is that of the request, with its identifier and the status it was answered with. -/
  logged : a.line = (s.requestEntry a.request a.response.status).line
    (entered w (requestId a.request)).journal.context
  /-- Exactly the operation that was asked for is counted, as an error if the status is another
  than 200. -/
  operated : a.isAnswered → match s.asked? a.request with
    | none => a.operations = []
    | some name => ∃ outcome, a.operations = [(name, outcome)] ∧
        (outcome = "error" ↔ a.response.status ≠ 200)
  /-- After a failure there is an answer without an identifier. -/
  crashed : a.isAnswered = false → a.response = Http.Response.crashed.forMethod a.request.method ∧
    (a.operations = [] ∨
      ∃ name outcome, s.asked? a.request = some name ∧ a.operations = [(name, outcome)])

/-- The calls that are made for a request count what its account says. -/
structure Records (a : Account) (s : Service) (calls : List RecordCall) : Prop where
  operations : RecordCall.operations calls = a.operations
  requests : ∀ labels, calls.countP (fun call ↦
      decide (call.counted? s.name = some (.requests, labels))) =
    ([a].filter Account.isAnswered).countP (·.labels = labels)

end Account

/-- What requests with these accounts change between two worlds. -/
structure Changes (s : Service) (accounts : List Account) (w after : World) : Prop where
  metered : after.IsMetered s.name
  threshold : after.journal.threshold = w.journal.threshold
  hasOutput : after.journal.hasOutput = w.journal.hasOutput
  lines : after.journal.requestLines = w.journal.requestLines ++
    if w.journal.hasOutput ∧ w.journal.threshold ≤ Level.info.rank then
      (accounts.filter Account.isAnswered).map Account.line
    else []
  requests : ∀ labels, after.countOf s.name .requests labels =
    w.countOf s.name .requests labels +
      (accounts.filter Account.isAnswered).countP (·.labels = labels)
  operations : ∀ name outcome, after.countOf s.name .authOperations [name, outcome] =
    w.countOf s.name .authOperations [name, outcome] +
      (accounts.flatMap Account.operations).count (name, outcome)

theorem changes_nil {s : Service} {w : World} (h : w.IsMetered s.name) : s.Changes [] w w where
  metered := h
  threshold := rfl
  hasOutput := rfl
  lines := by simp
  requests := fun _ ↦ rfl
  operations := fun _ _ ↦ rfl

theorem Changes.cons {s : Service} {a : Account} {accounts : List Account} {w v u : World}
    (h : s.Changes [a] w v) (h' : s.Changes accounts v u) : s.Changes (a :: accounts) w u where
  metered := h'.metered
  threshold := h'.threshold.trans h.threshold
  hasOutput := h'.hasOutput.trans h.hasOutput
  lines := by
    rw [h'.lines, h.lines, h.threshold, h.hasOutput, List.append_assoc]
    split
    · rw [← List.map_append, ← List.filter_append, List.singleton_append]
    · rfl
  requests := by
    intro labels
    rw [h'.requests, h.requests, Nat.add_assoc, ← List.countP_append, ← List.filter_append,
      List.singleton_append]
  operations := by
    intro name outcome
    rw [h'.operations, h.operations, Nat.add_assoc, ← List.count_append, ← List.flatMap_append,
      List.singleton_append]

/-! ## One request -/

variable (s : Service)

/-- Calls on the collector raise the counts of the service. -/
theorem countOf_of_update {service : String} {calls : List RecordCall} {w after : World}
    (h : w.IsMetered service)
    (hcollectors : after.collectors = w.collectors.update (.shared service) (·.recordAll calls)) :
    after.IsMetered service ∧ ∀ counter labels, after.countOf service counter labels =
      w.countOf service counter labels +
        calls.countP fun call ↦ decide (call.counted? service = some (counter, labels)) := by
  obtain ⟨c, hc, hservice⟩ := h
  have hafter : after.collectors.get? (.shared service) = some (c.recordAll calls) := by
    rw [hcollectors, Collectors.get?_update, if_pos rfl, hc]
    rfl
  refine ⟨⟨_, hafter, ?_⟩, fun counter labels ↦ ?_⟩
  · rw [Collector.service_recordAll, hservice]
  · rw [World.countOf, World.countOf, hafter, hc]
    simp only [Option.map_some, Option.getD_some]
    rw [Collector.countOf_recordAll, hservice]

/-- What is left of a request: the calls that were made for it, and its line if there is one. -/
structure Account.Leaves (a : Account) (s : Service) (calls : List RecordCall) (w after : World) :
    Prop where
  collectors : after.collectors = w.collectors.update (.shared s.name) (·.recordAll calls)
  threshold : after.journal.threshold = w.journal.threshold
  hasOutput : after.journal.hasOutput = w.journal.hasOutput
  lines : after.journal.requestLines = w.journal.requestLines ++
    if w.journal.hasOutput ∧ w.journal.threshold ≤ Level.info.rank then
      ([a].filter Account.isAnswered).map Account.line
    else []

theorem changes_of_leaves {s : Service} (hname : s.name = sessionsName) {a : Account}
    {calls : List RecordCall} {w after : World} (h : w.IsMetered s.name)
    (hrecords : a.Records s calls) (hleaves : a.Leaves s calls w after) :
    s.Changes [a] w after := by
  obtain ⟨hmetered, hcount⟩ := countOf_of_update h hleaves.collectors
  refine ⟨hmetered, hleaves.threshold, hleaves.hasOutput, hleaves.lines, fun labels ↦ ?_,
    fun name outcome ↦ ?_⟩
  · rw [hcount, hrecords.requests]
  · rw [hcount, hname, RecordCall.countP_operations, hrecords.operations, List.flatMap_singleton]

section Serve

variable {r : Http.Request} {w raw : World}

/-- The account of a request that was given a response after calls. -/
def accountOf (r : Http.Request) (w : World) (response : Http.Response) (defect? : Option Defect)
    (calls : List RecordCall) : Account :=
  ⟨r, response, defect?, RecordCall.operations calls,
    (s.requestEntry r response.status).line (entered w (requestId r)).journal.context⟩

theorem serve_of_error {failure : Failure}
    (h : (s.answer r).perform (entered w (requestId r)) = (.error failure, raw)) :
    s.serve r w =
      (Http.Response.crashed.forMethod r.method, left (entered w (requestId r)) raw) := by
  rw [serve]
  simp only [h]

theorem serve_of_ok {response : Http.Response}
    (h : (s.answer r).perform (entered w (requestId r)) = (.ok response, raw)) :
    s.serve r w =
      ((response.withHeaders [(requestIdHeader, requestId r)]).forMethod r.method,
        s.recorded r response.status (Duration.between w.now raw.now)
          (left (entered w (requestId r)) raw)) := by
  rw [serve]
  simp only [h]
  rfl

/-- Up to its answer nothing is logged about a request. -/
theorem requestLines_left {calls : List RecordCall}
    (h : (entered w (requestId r)).Leaves (.shared s.name) calls raw) :
    (left (entered w (requestId r)) raw).journal.requestLines = w.journal.requestLines := by
  obtain ⟨more, hmore, hnone⟩ := h.lines
  have hfilter : more.filter Journal.tellsRequest = [] :=
    List.filter_eq_nil_iff.mpr fun line hline ↦ by simp [hnone line hline]
  have hlines : (left (entered w (requestId r)) raw).journal.lines = w.journal.lines ++ more :=
    hmore
  rw [Journal.requestLines, hlines, List.filter_append, hfilter, List.append_nil]
  rfl

/-- The line about a request is added to those about requests. -/
theorem requestLines_write (j : Journal) (status : Nat) :
    ((j.write (s.requestEntry r status)).clear).requestLines =
      j.requestLines ++
        if j.hasOutput ∧ j.threshold ≤ Level.info.rank then
          [(s.requestEntry r status).line j.context]
        else [] := by
  have htells : Journal.tellsRequest ((s.requestEntry r status).line j.context) = true := by
    have hevent : (s.requestEntry r status).event = .str requestEvent := rfl
    rw [Journal.tellsRequest, LogEntry.get?_event_line hevent]
    exact decide_eq_true rfl
  have hadmits : (j.hasOutput && j.admits (s.requestEntry r status)) = true ↔
      j.hasOutput ∧ j.threshold ≤ Level.info.rank := by
    rw [Bool.and_eq_true, Journal.admits, decide_eq_true_iff]
    rfl
  have hclear : (j.write (s.requestEntry r status)).clear.requestLines =
      (j.write (s.requestEntry r status)).requestLines := rfl
  rw [hclear, Journal.write]
  by_cases hwritten : j.hasOutput ∧ j.threshold ≤ Level.info.rank
  · rw [if_pos (hadmits.mpr hwritten), if_pos hwritten, Journal.requestLines, List.filter_append]
    simp only [List.filter_cons, htells, if_true, List.filter_nil]
    rfl
  · rw [if_neg fun h ↦ hwritten (hadmits.mp h), if_neg hwritten, List.append_nil]

/-- The line and the count of an answered request are what its account leaves. -/
theorem leaves_recorded {calls : List RecordCall} (response : Http.Response) (elapsed : Binary64)
    (hleaves : (entered w (requestId r)).Leaves (.shared s.name) calls raw) :
    (s.accountOf r w response none calls).Leaves s
      (calls ++ [.request r.method r.shownPath (toString response.status) (.ok elapsed)]) w
      (s.recorded r response.status elapsed (left (entered w (requestId r)) raw)) := by
  have hkept (j : Journal) (e : LogEntry) : (j.write e).threshold = j.threshold ∧
      (j.write e).hasOutput = j.hasOutput := by
    rw [Journal.write]
    split <;> exact ⟨rfl, rfl⟩
  have hthreshold : (left (entered w (requestId r)) raw).journal.threshold =
      w.journal.threshold := hleaves.threshold
  have houtput : (left (entered w (requestId r)) raw).journal.hasOutput =
      w.journal.hasOutput := hleaves.hasOutput
  have hcollectors : (left (entered w (requestId r)) raw).collectors =
      w.collectors.update (.shared s.name) (·.recordAll calls) := hleaves.collectors
  refine ⟨?_, (hkept _ _).1.trans hthreshold, (hkept _ _).2.trans houtput, ?_⟩
  · rw [recorded]
    simp only [hcollectors, Collectors.update_update, Collector.recordAll_append]
    rfl
  · have hwrite := @requestLines_write s r (left (entered w (requestId r)) raw).journal
      response.status
    rw [s.requestLines_left hleaves, hthreshold, houtput] at hwrite
    exact hwrite

theorem Tallies.filter_isRequest {asked : Option Text}
    {result : Except Failure Http.Response} {calls : List RecordCall}
    (h : Tallies asked result calls) : calls.filter RecordCall.isRequest = [] :=
  List.filter_eq_nil_iff.mpr fun call hcall ↦ by simp [h.no_request call hcall]

theorem crash_account {calls : List RecordCall} {defect : Defect}
    (hperform : (s.answer r).perform (entered w (requestId r)) = (.error (.defect defect), raw))
    (htallies : Tallies (s.asked? r) (.error (.defect defect)) calls)
    (hleaves : (entered w (requestId r)).Leaves (.shared s.name) calls raw) :
    ∃ a : Account, a.request = r ∧ a.response = (s.serve r w).1 ∧ a.Settles s w ∧
      a.Records s calls ∧ a.Leaves s calls w (s.serve r w).2 := by
  rw [s.serve_of_error hperform]
  refine ⟨s.accountOf r w (Http.Response.crashed.forMethod r.method) (some defect) calls, rfl, rfl,
    ⟨congrArg Prod.fst hperform, fun h ↦ (nomatch h), rfl, fun h ↦ (nomatch h),
    fun _ ↦ ⟨rfl, htallies.of_defect defect rfl⟩⟩, ⟨rfl, fun labels ↦ ?_⟩, ?_⟩
  · rw [RecordCall.countP_requests, htallies.filter_isRequest]
    rfl
  · refine ⟨hleaves.collectors, hleaves.threshold, hleaves.hasOutput, ?_⟩
    rw [s.requestLines_left hleaves]
    simp [Account.isAnswered, accountOf]

theorem answer_account {calls : List RecordCall} {response : Http.Response}
    (hperform : (s.answer r).perform (entered w (requestId r)) = (.ok response, raw))
    (htallies : Tallies (s.asked? r) (.ok response) calls)
    (hleaves : (entered w (requestId r)).Leaves (.shared s.name) calls raw) :
    ∃ a : Account, ∃ calls, a.request = r ∧ a.response = (s.serve r w).1 ∧ a.Settles s w ∧
      a.Records s calls ∧ a.Leaves s calls w (s.serve r w).2 := by
  obtain ⟨hanonymous, hoperations⟩ := htallies.of_ok response rfl
  have hstatus : ((response.withHeaders [(requestIdHeader, requestId r)]).forMethod
      r.method).status = response.status := by
    rw [Http.Response.forMethod]
    split <;> rfl
  have hheaders : ((response.withHeaders [(requestIdHeader, requestId r)]).forMethod
      r.method).headers = response.headers ++ [(requestIdHeader, requestId r)] := by
    rw [Http.Response.forMethod]
    split <;> rfl
  rw [s.serve_of_ok hperform]
  refine ⟨s.accountOf r w _ none calls, calls ++ [.request r.method r.shownPath
    (toString response.status) (.ok (Duration.between w.now raw.now))], rfl, rfl,
    ⟨⟨response, congrArg Prod.fst hperform, hstatus.symm⟩, fun _ ↦ ?_, rfl, fun _ ↦ ?_,
      fun h ↦ (nomatch h)⟩, ⟨?_, fun labels ↦ ?_⟩, ?_⟩
  · have hnone : response.headers.filter (·.1 = requestIdHeader) = [] :=
      List.filter_eq_nil_iff.mpr fun header hheader ↦ by simpa using hanonymous header hheader
    simp only [accountOf, hheaders, List.filter_append, hnone]
    simp
  · simp only [accountOf, hstatus]
    exact hoperations
  · rw [RecordCall.operations, List.filterMap_append]
    exact List.append_nil _
  · rw [RecordCall.countP_requests, List.filter_append, htallies.filter_isRequest, List.nil_append]
    -- one call on the left, one account on the right
    change List.countP _ [_] = List.countP _ [_]
    simp [RecordCall.counted?, Account.labels, accountOf, hstatus]
  · have hrecorded := s.leaves_recorded
      ((response.withHeaders [(requestIdHeader, requestId r)]).forMethod r.method)
      (Duration.between w.now raw.now) hleaves
    rw [hstatus] at hrecorded
    exact hrecorded

end Serve

/-- **A request has an account.** -/
theorem serve_account (r : Http.Request) (w : World) :
    ∃ a : Account, ∃ calls, a.request = r ∧ a.response = (s.serve r w).1 ∧ a.Settles s w ∧
      a.Records s calls ∧ a.Leaves s calls w (s.serve r w).2 := by
  obtain ⟨calls, ⟨htallies, hrefused⟩, hleaves⟩ := s.does_answer r (entered w (requestId r))
  rcases hperform : (s.answer r).perform (entered w (requestId r)) with ⟨failure | response, raw⟩
  · rw [hperform] at htallies hrefused hleaves
    cases failure with
    | refused error => exact absurd rfl (hrefused error)
    | defect defect =>
      obtain ⟨a, ha⟩ := s.crash_account hperform htallies hleaves
      exact ⟨a, calls, ha⟩
  · rw [hperform] at htallies hleaves
    exact s.answer_account hperform htallies hleaves

/-! ## Runs -/

/-- A request that arrives: what the clock shows then, and what will be delivered. -/
structure Visit where
  request : Http.Request
  now : Option Moment := none
  deliveries : List Delivery := []

/-- The world a request finds. -/
def Visit.world (v : Visit) (w : World) : World :=
  { w with now := v.now.getD w.now, deliveries := v.deliveries }

def serveAll : List Visit → World → List Http.Response × World
  | [], w => ([], w)
  | v :: visits, w =>
    let (response, after) := s.serve v.request (v.world w)
    let (responses, last) := serveAll visits after
    (response :: responses, last)

/-- The worlds that the requests find. -/
def found : List Visit → World → List World
  | [], _ => []
  | v :: visits, w => v.world w :: found visits (s.serve v.request (v.world w)).2

/-- **Every request of a run is accounted for.** -/
theorem serveAll_accounts (hname : s.name = sessionsName) (visits : List Visit) {w : World}
    (h : w.IsMetered s.name) :
    ∃ accounts : List Account,
      accounts.map Account.request = visits.map Visit.request ∧
      accounts.map Account.response = (s.serveAll visits w).1 ∧
      (∀ entry ∈ accounts.zip (s.found visits w), entry.1.Settles s entry.2) ∧
      s.Changes accounts w (s.serveAll visits w).2 := by
  -- the collector is still there after a request, which the next one needs
  induction visits generalizing w with
  | nil => exact ⟨[], rfl, rfl, fun _ h ↦ (nomatch h), changes_nil h⟩
  | cons v visits ih =>
    obtain ⟨a, calls, hrequest, hresponse, hsettles, hrecords, hleaves⟩ :=
      s.serve_account v.request (v.world w)
    have hmetered : (v.world w).IsMetered s.name := h
    have hchanges := changes_of_leaves hname hmetered hrecords hleaves
    obtain ⟨accounts, hrequests, hresponses, hall, hrest⟩ := ih hchanges.metered
    refine ⟨a :: accounts, ?_, ?_, ?_, ?_⟩
    · rw [List.map_cons, hrequest, hrequests, List.map_cons]
    · rw [List.map_cons, hresponse, hresponses]
      rfl
    · intro entry hentry
      rw [found, List.zip_cons_cons] at hentry
      rcases List.mem_cons.mp hentry with rfl | hentry
      · exact hsettles
      · exact hall entry hentry
    · -- the clock and the deliveries play no part in what is counted and logged
      have hfirst : s.Changes [a] w (s.serve v.request (v.world w)).2 :=
        ⟨hchanges.metered, hchanges.threshold, hchanges.hasOutput, hchanges.lines,
          hchanges.requests, hchanges.operations⟩
      exact hfirst.cons hrest

/-! ## A failure -/

def sampleSettings : Settings where
  env := "local"
  logLevel := "info"
  httpTimeout := .ofNat 10
  providerName := "OpenID Connect"
  clientId := "client"
  clientSecret := ""
  issuerUrl := "https://idp"
  redeemUrl := "https://idp/token"
  validateUrl := "https://idp/userinfo"
  keyFile := none
  groupNames := ""
  requireEmailVerified := false
  serviceName := sessionsName
  port := sessionsPort
  host := "0.0.0.0"

def sampleService : Service where
  name := sessionsName
  settings := sampleSettings
  startedAt := sampleMoment
  commit := "unknown"
  provider := some sampleProvider

def codeRequest : Http.Request where
  method := "POST"
  path := "/auth/redeem"
  headers := [("content-type", "application/json"), (requestIdHeader, "r1")]
  body := Text.utf8 "\x7b\"code\":\"c\",\"redirect_url\":\"https://app\"\x7d"

/-- An answer with a lifetime that no number is large enough for. -/
def endlessAnswer : Response where
  status := 200
  body := Text.utf8 "\x7b\"access_token\":\"a\",\"expires_in\":1e400\x7d"

def endlessWorld : World where
  now := sampleMoment
  journal := { isSetUp := true, hasOutput := true, threshold := Level.debug.rank }
  collectors := [(.shared sessionsName, { service := sessionsName })]
  deliveries := [{ outcome := .answered endlessAnswer }]

/-- The code arrives, and that answer is what is delivered. -/
def endlessVisit : Visit where
  request := codeRequest
  deliveries := endlessWorld.deliveries

/-- The account of the code is that of a failure, and so nothing is counted and no line written. -/
theorem serveAll_accounts_codeRequest :
    sampleService.name = sessionsName ∧ endlessWorld.IsMetered sampleService.name ∧
      ∃ a : Account, a.request = codeRequest ∧ a.response.status = 500 ∧ a.isAnswered = false ∧
        sampleService.Changes [a] endlessWorld
          (sampleService.serveAll [endlessVisit] endlessWorld).2 := by
  have hmetered : endlessWorld.IsMetered sampleService.name := ⟨_, rfl, rfl⟩
  obtain ⟨accounts, hrequests, hresponses, hsettles, hchanges⟩ :=
    sampleService.serveAll_accounts rfl [endlessVisit] hmetered
  obtain ⟨a, rfl, hrequest⟩ := List.map_eq_singleton_iff.mp hrequests
  have hresponse : a.response = (sampleService.serve codeRequest endlessWorld).1 :=
    List.singleton_inj.mp hresponses
  have hstatus : (sampleService.serve codeRequest endlessWorld).1.status = 500 := by
    decide +kernel
  have hfails : ((sampleService.answer codeRequest).perform
      (entered endlessWorld (requestId codeRequest))).1.toOption = none := by
    decide +kernel
  have hperformed := (hsettles (a, endlessWorld) List.mem_cons_self).performed
  refine ⟨rfl, hmetered, a, hrequest, hresponse ▸ hstatus, ?_, hchanges⟩
  cases hdefect : a.defect? with
  | some defect => rw [Account.isAnswered, hdefect]; rfl
  | none =>
    -- a request that is answered does not fail
    rw [hdefect, hrequest] at hperformed
    obtain ⟨response, hok, -⟩ := hperformed
    have hok' : ((sampleService.answer codeRequest).perform
        (entered endlessWorld (requestId codeRequest))).1 = .ok response := hok
    rw [hok'] at hfails
    cases hfails

/-- The service fails on the answer, and neither the request nor the operation leaves a trace. -/
theorem serve_endlessAnswer :
    sampleService.asked? codeRequest = some "redeem" ∧
      (sampleService.serve codeRequest endlessWorld).1.status = 500 ∧
      (sampleService.serve codeRequest endlessWorld).1.headers.lookup requestIdHeader = none ∧
      (sampleService.serve codeRequest endlessWorld).2.journal.requestLines.length = 0 ∧
      (sampleService.serve codeRequest endlessWorld).2.countOf sessionsName .requests
        ["POST", "/auth/redeem", "500"] = 0 ∧
      (sampleService.serve codeRequest endlessWorld).2.countOf sessionsName .authOperations
        ["redeem", "error"] = 0 := by
  decide +kernel

end Service

end SessionGate
