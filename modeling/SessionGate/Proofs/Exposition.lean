import SessionGate.Proofs.RequestAccounts

/-!
# What is published of what was counted

A service publishes the common registry, and its collector is asked for without a registry. Such a
collector is made once and shared by everybody who asks for it again, so it counts all calls that
are made on it; but it is registered nowhere. However many requests are served and calls are made,
nothing of what was counted is published: `Service.run_unpublished`.

A run is made of requests, of calls that others make on collectors, and of collectors that are asked
for. `MetricStep.Makes` says which calls a step makes on the collector of the service: for a request
they are those of its account.
-/

namespace SessionGate

/-! ## Runs -/

inductive MetricStep where
  /-- A request is served. -/
  | serve (visit : Service.Visit)
  /-- A call is made on a collector. -/
  | record (key : CollectorKey) (call : RecordCall)
  /-- A collector is asked for. -/
  | obtain (service : String) (registry : Option String)

namespace MetricStep

def after (s : Service) (w : World) : MetricStep → World
  | serve v => (s.serve v.request (v.world w)).2
  | record key call => { w with collectors := w.collectors.update key fun c ↦ c.record call }
  | obtain service registry => { w with collectors := (w.collectors.obtain service registry).2 }

/-- The calls that a step makes on the collector of a service. -/
def Makes (s : Service) (w : World) : MetricStep → List RecordCall → Prop
  | serve v, calls => ∃ a : Service.Account, a.request = v.request ∧
      a.response = (s.serve v.request (v.world w)).1 ∧ a.Settles s (v.world w) ∧ a.Records s calls
  | record key call, calls => calls = if key = .shared s.name then [call] else []
  | obtain .., calls => calls = []

/-- Every step changes the collector of a service by the calls that it makes on it. -/
theorem makes_after (s : Service) (w : World) (step : MetricStep) :
    ∃ calls, step.Makes s w calls ∧ ∀ c, w.collectors.get? (.shared s.name) = some c →
      (step.after s w).collectors.get? (.shared s.name) = some (c.recordAll calls) := by
  cases step with
  | serve v =>
    obtain ⟨a, calls, hrequest, hresponse, hsettles, hrecords, hleaves⟩ :=
      s.serve_account v.request (v.world w)
    refine ⟨calls, ⟨a, hrequest, hresponse, hsettles, hrecords⟩, fun c hc ↦ ?_⟩
    have hc' : (v.world w).collectors.get? (.shared s.name) = some c := hc
    rw [after, hleaves.collectors, Collectors.get?_update, if_pos rfl, hc']
    rfl
  | record key call =>
    refine ⟨_, rfl, fun c hc ↦ ?_⟩
    simp only [after, Collectors.get?_update]
    by_cases hkey : key = .shared s.name
    · rw [if_pos hkey.symm, if_pos hkey, hkey, hc]
      rfl
    · rw [if_neg (Ne.symm hkey), if_neg hkey, hc]
      rfl
  | obtain service registry =>
    exact ⟨[], rfl, fun c hc ↦ Collectors.get?_obtain hc service registry⟩

theorem nodup_keys_after {s : Service} {w : World} (h : w.collectors.keys.Nodup)
    (step : MetricStep) : (step.after s w).collectors.keys.Nodup := by
  cases step with
  | serve v =>
    obtain ⟨a, calls, -, -, -, -, hleaves⟩ := s.serve_account v.request (v.world w)
    rw [after, hleaves.collectors, Collectors.keys_update]
    exact h
  | record key call =>
    simp only [after, Collectors.keys_update]
    exact h
  | obtain service registry => exact Collectors.nodup_keys_obtain h service registry

def afterAll (s : Service) : List MetricStep → World → World
  | [], w => w
  | step :: steps, w => afterAll s steps (step.after s w)

theorem nodup_keys_afterAll {s : Service} (steps : List MetricStep) {w : World}
    (h : w.collectors.keys.Nodup) : (afterAll s steps w).collectors.keys.Nodup := by
  induction steps generalizing w with
  | nil => exact h
  | cons step steps ih => exact ih (nodup_keys_after h step)

end MetricStep

/-- A run of steps from a world to another one, with the calls that are made in each step. -/
inductive Metering (s : Service) : World → List (MetricStep × List RecordCall) → World → Prop where
  | done (w : World) : Metering s w [] w
  | step {w last : World} {step : MetricStep} {calls : List RecordCall}
      {rest : List (MetricStep × List RecordCall)} (hmakes : step.Makes s w calls)
      (hrest : Metering s (step.after s w) rest last) : Metering s w ((step, calls) :: rest) last

namespace Service

variable (s : Service)

/-- A run counts the calls that are made in it. -/
theorem exists_metering {w : World} {c : Collector}
    (hc : w.collectors.get? (.shared s.name) = some c) (steps : List MetricStep) :
    ∃ run, run.map Prod.fst = steps ∧ Metering s w run (MetricStep.afterAll s steps w) ∧
      (MetricStep.afterAll s steps w).collectors.get? (.shared s.name) =
        some (c.recordAll (run.flatMap Prod.snd)) := by
  -- the collector grows by the calls of each step, so that it is general in the induction
  induction steps generalizing w c with
  | nil => exact ⟨[], rfl, .done w, hc⟩
  | cons step steps ih =>
    obtain ⟨calls, hmakes, hafter⟩ := step.makes_after s w
    obtain ⟨run, hsteps, hrun, hlast⟩ := ih (hafter c hc)
    refine ⟨(step, calls) :: run, ?_, .step hmakes hrun, ?_⟩
    · rw [List.map_cons, hsteps]
    · rw [MetricStep.afterAll, hlast, List.flatMap_cons, Collector.recordAll_append]

/-! ## The page of the samples -/

theorem destination_metrics : s.destination "GET" "/metrics" = .endpoint .metrics := by
  have hfound : ∀ docs ∈ [[], docsRoutes "/docs"],
      (docs ++ ([⟨"/health", ["GET"], .health⟩,
        ⟨"/metrics", ["GET"], .metrics⟩] : List Route)).find? (·.isAt "/metrics") =
          some ⟨"/metrics", ["GET"], .metrics⟩ := by decide +kernel
  have hdocs : (s.docsPath?.map docsRoutes).getD [] ∈ [[], docsRoutes "/docs"] := by
    rw [docsPath?]
    split <;> simp
  rw [destination, routes, List.find?_append, hfound _ hdocs]
  rfl

/-- Whatever was counted, the page of the samples is empty. -/
theorem serve_metrics {r : Http.Request} (hmethod : r.method = "GET") (hpath : r.path = "/metrics")
    (w : World) : (s.serve r w).1.status = 200 ∧ (s.serve r w).1.body = .samples [] := by
  have hpreflight : s.cors.preflight? r = none := by
    unfold Http.Cors.preflight?
    split
    · rw [if_neg (by rw [hmethod]; decide)]
    · rfl
  have hperform : ((s.answer r).perform (entered w (requestId r))) =
      (.ok ((Http.Response.of 200 (.samples [])).withHeaders (s.cors.answerHeaders r)),
        entered w (requestId r)) := by
    have hdispatch : s.dispatch r = metrics := by
      rw [dispatch, hmethod, hpath, destination_metrics]
      rfl
    rw [answer, hpreflight]
    simp only [Action.perform_bind, answerOrError, hdispatch, Action.perform_tryCatch, metrics,
      Action.perform_get, Action.perform_pure, Collectors.published_common]
  rw [s.serve_of_ok hperform, Http.Response.forMethod, if_neg (by rw [hmethod]; decide)]
  exact ⟨rfl, rfl⟩

/-- **Nothing is published of what was counted.** -/
theorem run_unpublished {w : World} {c : Collector}
    (hc : w.collectors.get? (.shared s.name) = some c) (hservice : c.service = s.name)
    (steps : List MetricStep) :
    let last := MetricStep.afterAll s steps w
    ∃ run c', run.map Prod.fst = steps ∧ Metering s w run last ∧
      last.collectors.get? (.shared s.name) = some c' ∧
      (∀ counter labels, c'.countOf counter labels =
        c.countOf counter labels + (run.flatMap Prod.snd).countP fun call ↦
          decide (call.counted? s.name = some (counter, labels))) ∧
      (∀ counter labels, c'.countOf counter labels ≠ 0 →
        Collector.countSample ((counter, labels), c'.countOf counter labels) ∈ c'.samples) ∧
      last.collectors.published .common = [] ∧
      (∀ v : Visit, v.request.method = "GET" → v.request.path = "/metrics" →
        (s.serve v.request (v.world last)).1.status = 200 ∧
          (s.serve v.request (v.world last)).1.body = .samples []) ∧
      (∀ service, (last.collectors.obtain service none).1 = .ok (.shared service) ∧
        (last.collectors.obtain service none).2.obtain service none =
          (.ok (.shared service), (last.collectors.obtain service none).2)) ∧
      (w.collectors.keys.Nodup → last.collectors.keys.Nodup) := by
  obtain ⟨run, hsteps, hrun, hlast⟩ := s.exists_metering hc steps
  refine ⟨run, _, hsteps, hrun, hlast, fun counter labels ↦ ?_, fun counter labels h ↦ ?_,
    Collectors.published_common _, fun v hmethod hpath ↦ s.serve_metrics hmethod hpath _,
    fun service ↦ Collectors.obtain_again _ service, MetricStep.nodup_keys_afterAll steps⟩
  · rw [Collector.countOf_recordAll, hservice]
  · exact Collector.countSample_mem_samples _ h

def healthRequest : Http.Request where
  method := "GET"
  path := "/health"

def metricsRequest : Http.Request where
  method := "GET"
  path := "/metrics"

theorem run_unpublished_healthRequest :
    ∃ c, endlessWorld.collectors.get? (.shared sampleService.name) = some c ∧
      c.service = sampleService.name ∧
      ∃ run last, run.map Prod.fst = [.serve ⟨healthRequest, none, []⟩] ∧
        Metering sampleService endlessWorld run last ∧
        last.collectors.published .common = [] := by
  have hc : endlessWorld.collectors.get? (.shared sampleService.name) =
      some { service := sessionsName } := rfl
  obtain ⟨run, c', hsteps, hrun, -, -, -, hpublished, -⟩ :=
    sampleService.run_unpublished hc rfl [.serve ⟨healthRequest, none, []⟩]
  exact ⟨_, hc, rfl, run, _, hsteps, hrun, hpublished⟩

/-- A check of the health has been counted, and the page of the samples does not show it. -/
theorem serve_metrics_after_health :
    (sampleService.serve healthRequest endlessWorld).2.countOf sessionsName .healthChecks
        ["ok"] = 1 ∧
      (match (sampleService.serve metricsRequest
          (sampleService.serve healthRequest endlessWorld).2).1.body with
        | .samples samples => samples.isEmpty
        | _ => false) = true := by
  decide +kernel

end Service

end SessionGate
