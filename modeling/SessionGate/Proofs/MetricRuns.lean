import SessionGate.Metrics.Registration
import SessionGate.Proofs.Steps
import SessionGate.Proofs.Tallies

/-!
# Collectors that are asked for and called

Collectors are asked for by the names of services and by registries, in any order, and calls are
made on those that there are. `Collectors.Run` is such a history. `Collectors.run_isExact` says that
every collector shows its own calls at the end and nothing else, by the texts of their labels.

## What is refused

A registry takes one collector. Another one is refused for the first of its metrics, so that none
of them is registered: `Collectors.register_eq_obtain` makes the metrics one after the other and
comes to the same as `Collectors.obtain`.
-/

namespace SessionGate

/-! ## Texts of labels -/

theorem DecimalLayout.place_ne_nil (layout : DecimalLayout) (ds : List Char) (point : Int) :
    layout.place ds point ≠ [] := by
  rw [place]
  split
  · simp
  · split
    · simp
    · split
      · -- at least the zeros before the point are there
        refine List.append_ne_nil_of_left_ne_nil (List.ne_nil_of_length_pos ?_) _
        rw [List.length_append, List.length_replicate]
        omega
      · simp

theorem Json.literalChars_ne_nil (v : Json) : v.literalChars ≠ [] := by
  cases v with
  | bool b => cases b <;> simp [literalChars]
  | int n =>
    rw [literalChars, Int.toString_eq_repr]
    cases n <;> simp [Int.repr, Nat.repr, Nat.toDigits_ne_nil]
  | float x =>
    rw [literalChars]
    cases x with
    | nan => decide
    | infinite s => cases s <;> decide
    | finite s m e =>
      simp only [Binary64.toDecimal, String.toList_append, String.toList_ofList]
      refine List.append_ne_nil_of_right_ne_nil _ ?_
      split
      · exact DecimalLayout.place_ne_nil _ _ _
      · exact DecimalLayout.place_ne_nil _ _ _
  | _ => simp [literalChars, Text.quoted]

/-- What is set has a text that is not empty. -/
theorem Json.display_ne_empty {v : Json} (h : v.isSet = true) : v.display ≠ .plain "" := by
  cases v with
  | str s => simpa [isSet, display] using h
  | _ =>
    rw [display, literal, Ne, Text.plain.injEq, String.ofList_eq_empty_iff]
    · exact literalChars_ne_nil _
    · intro s h
      cases h

/-! ## Calls with values -/

namespace MetricCall

def text? (v : Json) : Option Text :=
  (label v).toOption

/-- The text for the service of an error. Where none is given, it is the service itself. -/
def serviceText? (service : String) (other : Json) : Option Text :=
  if other.isSet then text? other else some (.plain service)

/-- The counter that a call raises in the collector of a service, and the texts of its labels. -/
def labelled? (service : String) : MetricCall → Option (Counter × List (String × Text))
  | request method endpoint status _ => do
    return (.requests, [("method", ← text? method), ("endpoint", ← text? endpoint),
      ("status_code", ← text? status)])
  | health status => do
    return (.healthChecks, [("status", ← text? status)])
  | error type other => do
    return (.errors, [("error_type", ← text? type), ("service", ← serviceText? service other)])
  | operation name outcome =>
    if service = "auth" then do
      return (.authOperations, [("operation", ← text? name), ("outcome", ← text? outcome)])
    else none

def IsFinite : MetricCall → Prop
  | request _ _ _ duration => ∃ x, Duration.ofJson duration = .ok x ∧ x.isFinite = true
  | _ => True

/-- What a call records in the collector of a service. -/
def recorded (service : String) (call : MetricCall) : List RecordCall :=
  match call.read service with
  | .ok (some recorded) => [recorded]
  | _ => []

theorem label_ne_empty {v : Json} (h : v.isSet = true) {text : Text}
    (htext : label v = .ok text) : text ≠ .plain "" := by
  rw [label] at htext
  split at htext <;> cases htext
  exact Json.display_ne_empty h

/-- What a call records has the labels of the call. -/
theorem labelled?_eq (service : String) (call : MetricCall) :
    call.labelled? service = (call.recorded service).head?.bind (·.labelled? service) := by
  cases call with
  | request method endpoint status duration =>
    rw [labelled?, recorded, read, text?, text?, text?]
    rcases label method with _ | m <;> rcases label endpoint with _ | e <;>
      rcases label status with _ | s <;> rfl
  | health status =>
    rw [labelled?, recorded, read, text?]
    rcases label status with _ | s <;> rfl
  | error type other =>
    rw [labelled?, recorded, read, text?, serviceText?, serviceLabel]
    by_cases hset : other.isSet = true
    · rw [if_pos hset, if_pos hset, text?]
      rcases label type with _ | t
      · rfl
      · cases hother : label other with
        | error fault => rfl
        | ok o =>
          -- a text that is given is not taken for one that is missing
          have hne := label_ne_empty hset hother
          have hcounted : RecordCall.counted? service (.error t o) = some (.errors, [t, o]) := by
            rw [RecordCall.counted?, if_neg hne]
          have hlabelled : RecordCall.labelled? service (.error t o) =
              some (.errors, [("error_type", t), ("service", o)]) := by
            rw [RecordCall.labelled?, hcounted]
            rfl
          exact hlabelled.symm
    · rw [if_neg hset, if_neg hset]
      rcases label type with _ | t <;> rfl
  | operation name outcome =>
    rw [labelled?, recorded, read, text?, text?]
    by_cases h : service = "auth"
    · have hmem := (Counter.mem_ofService_iff .authOperations service).mpr (.inr h)
      rw [if_pos h, if_pos hmem]
      rcases label name with _ | n <;> rcases label outcome with _ | o
      · rfl
      · rfl
      · rfl
      · have hlabelled : RecordCall.labelled? service (.operation n o) =
            some (.authOperations, [("operation", n), ("outcome", o)]) := by
          rw [RecordCall.labelled?, RecordCall.counted?, if_pos h]
          rfl
        exact hlabelled.symm
    · rw [if_neg h, if_neg (Counter.authOperations_not_mem h)]
      rfl

theorem read_of_mem_recorded {service : String} {call : MetricCall} {r : RecordCall}
    (h : r ∈ call.recorded service) : call.read service = .ok (some r) := by
  rw [recorded] at h
  split at h
  · next hread => rw [hread, List.mem_singleton.mp h]
  · cases h

/-- The duration that is recorded is the one of the call. -/
theorem isFinite_of_mem_recorded {service : String} {call : MetricCall} (h : call.IsFinite)
    {r : RecordCall} (hr : r ∈ call.recorded service) : r.IsFinite := by
  have hread := read_of_mem_recorded hr
  cases call with
  | request method endpoint status duration =>
    obtain ⟨s, -, hread⟩ := bind_eq_ok_iff.mp hread
    obtain ⟨m, -, hread⟩ := bind_eq_ok_iff.mp hread
    obtain ⟨e, -, hread⟩ := bind_eq_ok_iff.mp hread
    cases hread
    exact h
  | health status =>
    obtain ⟨s, -, hread⟩ := bind_eq_ok_iff.mp hread
    cases hread
    trivial
  | error type other =>
    obtain ⟨t, -, hread⟩ := bind_eq_ok_iff.mp hread
    obtain ⟨o, -, hread⟩ := bind_eq_ok_iff.mp hread
    cases hread
    trivial
  | operation name outcome =>
    rw [read] at hread
    split at hread
    · obtain ⟨n, -, hread⟩ := bind_eq_ok_iff.mp hread
      obtain ⟨o, -, hread⟩ := bind_eq_ok_iff.mp hread
      cases hread
      trivial
    · cases hread

end MetricCall

/-- How many of the calls raise a counter under some labels. -/
def MetricCall.tally (service : String) (calls : List MetricCall) (counter : Counter)
    (labels : List (String × Text)) : Nat :=
  calls.countP fun call ↦ decide (call.labelled? service = some (counter, labels))

namespace Collector

/-- A call records what it records for the service, and nothing else. -/
theorem call_eq_recordAll (c : Collector) (call : MetricCall) :
    (c.call call).2 = c.recordAll (call.recorded c.service) := by
  rw [Collector.call, MetricCall.recorded]
  rcases call.read c.service with _ | _ | r <;> rfl

/-- The calls that are recorded have the labels of those that are made. -/
theorem tally_recorded (service : String) (calls : List MetricCall) (counter : Counter)
    (labels : List (String × Text)) :
    tally service (calls.flatMap (·.recorded service)) counter labels =
      MetricCall.tally service calls counter labels := by
  induction calls with
  | nil => rfl
  | cons call calls ih =>
    have hcall : tally service (call.recorded service) counter labels =
        if decide (call.labelled? service = some (counter, labels)) = true then 1 else 0 := by
      rw [MetricCall.labelled?_eq, MetricCall.recorded, tally]
      rcases call.read service with _ | _ | r
      · rfl
      · rfl
      · by_cases h : r.labelled? service = some (counter, labels) <;> simp [h]
    rw [tally] at ih hcall
    rw [tally, List.flatMap_cons, List.countP_append, ih, hcall, MetricCall.tally,
      MetricCall.tally, List.countP_cons, Nat.add_comm]

def afterCalls (service : String) (calls : List MetricCall) : Collector :=
  recordAll { service } (calls.flatMap (·.recorded service))

/-- The samples of a collector are those of the calls made on it. -/
structure Shows (c : Collector) (calls : List MetricCall) : Prop where
  counters : ∀ counter labels x, ⟨counter.name, labels, x⟩ ∈ c.samples ↔
    MetricCall.tally c.service calls counter labels ≠ 0 ∧
      x = .ofNat (MetricCall.tally c.service calls counter labels)
  /-- A double has room for numbers of 53 bits. -/
  worth : ∀ counter labels x, ⟨counter.name, labels, x⟩ ∈ c.samples →
    MetricCall.tally c.service calls counter labels < 2 ^ 53 →
      x.toInt? = some (MetricCall.tally c.service calls counter labels : ℤ)
  durations : (∀ call ∈ calls, call.IsFinite) → ∀ method endpoint,
    c.Balances method endpoint (∑ᶠ status, MetricCall.tally c.service calls .requests
      (RecordCall.requestLabels method endpoint status))

theorem shows_afterCalls (service : String) (calls : List MetricCall) :
    (afterCalls service calls).Shows calls := by
  have hservice : (afterCalls service calls).service = service := service_recordAll _ _
  have hcounters (counter : Counter) (labels : List (String × Text)) (x : Binary64) :
      ⟨counter.name, labels, x⟩ ∈ (afterCalls service calls).samples ↔
        MetricCall.tally service calls counter labels ≠ 0 ∧
          x = .ofNat (MetricCall.tally service calls counter labels) := by
    rw [← tally_recorded]
    exact counter_mem_samples_iff service _
  refine ⟨?_, ?_, ?_⟩ <;> simp only [hservice]
  · exact hcounters
  · intro counter labels x hx hbits
    obtain ⟨-, rfl⟩ := (hcounters counter labels x).mp hx
    exact Binary64.toInt?_ofNat hbits
  · intro hfinite method endpoint
    simp only [← tally_recorded]
    refine balances fun r hr ↦ ?_
    obtain ⟨call, hcall, hr⟩ := List.mem_flatMap.mp hr
    exact MetricCall.isFinite_of_mem_recorded (hfinite call hcall) hr

end Collector

/-! ## Runs -/

/-- What happens to collectors: one is asked for, or a call is made on one. -/
inductive CollectorStep where
  | obtain (service : String) (registry : Option String)
  | record (key : CollectorKey) (call : MetricCall)

namespace CollectorStep

/-- The call that a step makes on a collector. -/
def callOn? (key : CollectorKey) : CollectorStep → Option MetricCall
  | obtain .. => none
  | record other call => if other = key then some call else none

/-- The service that a step asks for a collector for. -/
def serviceFor? (key : CollectorKey) : CollectorStep → Option String
  | obtain service registry =>
    if Collectors.keyFor service registry = key then some service else none
  | record .. => none

end CollectorStep

namespace Collectors

/-- A run of steps from some collectors to others. Calls are made on collectors that there are. -/
inductive Run : Collectors → List CollectorStep → Collectors → Prop where
  | done (cs : Collectors) : Run cs [] cs
  | obtain {cs last : Collectors} (service : String) (registry : Option String)
      {steps : List CollectorStep} (hrest : Run (cs.obtain service registry).2 steps last) :
      Run cs (.obtain service registry :: steps) last
  | record {cs last : Collectors} {key : CollectorKey} {c : Collector} (call : MetricCall)
      {steps : List CollectorStep} (hthere : cs.get? key = some c)
      (hrest : Run (cs.update key fun c ↦ (c.call call).2) steps last) :
      Run cs (.record key call :: steps) last

/-- The calls that are made on a collector. -/
def callsOn (key : CollectorKey) (steps : List CollectorStep) : List MetricCall :=
  steps.filterMap (·.callOn? key)

variable {cs last : Collectors} {steps : List CollectorStep} {key : CollectorKey} {c : Collector}

theorem callsOn_obtain (key : CollectorKey) (service : String) (registry : Option String)
    (steps : List CollectorStep) :
    callsOn key (.obtain service registry :: steps) = callsOn key steps := rfl

theorem callsOn_record (key other : CollectorKey) (call : MetricCall)
    (steps : List CollectorStep) :
    callsOn key (.record other call :: steps) =
      if other = key then call :: callsOn key steps else callsOn key steps := by
  by_cases h : other = key <;> simp [callsOn, CollectorStep.callOn?, h]

theorem get?_obtain_of_none (h : cs.get? key = none) (service : String)
    (registry : Option String) :
    (cs.obtain service registry).2.get? key =
      if keyFor service registry = key then some { service } else none := by
  have hlookup : cs.lookup key = none := h
  rw [obtain]
  by_cases hkey : keyFor service registry = key
  · rw [if_pos hkey, hkey, h]
    simp [get?, List.lookup_append, hlookup]
  · rw [if_neg hkey]
    cases cs.get? (keyFor service registry) with
    | some c => exact h
    | none =>
      have hnew : get? [(keyFor service registry, { service := service })] key = none := by
        rw [get?_cons, if_neg (Ne.symm hkey)]
        rfl
      rw [get?] at hnew
      simp [get?, List.lookup_append, hlookup, hnew]

/-- A collector that is there records the calls that are made on it. -/
theorem Run.get?_of_some (h : Run cs steps last) (hc : cs.get? key = some c) :
    last.get? key = some (c.recordAll ((callsOn key steps).flatMap (·.recorded c.service))) := by
  induction h generalizing c with
  | done cs => exact hc
  | obtain service registry hrest ih =>
    rw [callsOn_obtain]
    exact ih (get?_obtain hc service registry)
  | @record cs last other _ call steps hthere hrest ih =>
    rw [callsOn_record]
    by_cases hkey : other = key
    · have hnext : (cs.update other fun c ↦ (c.call call).2).get? key =
          some (c.recordAll (call.recorded c.service)) := by
        rw [get?_update, if_pos hkey.symm, hkey, hc, ← Collector.call_eq_recordAll]
        rfl
      rw [ih hnext, if_pos hkey, List.flatMap_cons, Collector.recordAll_append,
        Collector.service_recordAll]
    · have hnext : (cs.update other fun c ↦ (c.call call).2).get? key = some c := by
        rw [get?_update, if_neg (Ne.symm hkey), hc]
      rw [ih hnext, if_neg hkey]

/-- A collector that is made in a run is the one of the service that is the first to ask for it, and
it has recorded the calls made on it. -/
theorem Run.eq_afterCalls (h : Run cs steps last) (hnew : cs.get? key = none)
    (hc : last.get? key = some c) :
    (steps.filterMap (·.serviceFor? key)).head? = some c.service ∧
      c = .afterCalls c.service (callsOn key steps) := by
  induction h with
  | done cs =>
    rw [hnew] at hc
    cases hc
  | @obtain cs last service registry steps hrest ih =>
    have hnext := get?_obtain_of_none hnew service registry
    rw [callsOn_obtain]
    by_cases hkey : keyFor service registry = key
    · rw [if_pos hkey] at hnext
      have hlast := hrest.get?_of_some hnext
      rw [hc] at hlast
      cases hlast
      have hfirst : CollectorStep.serviceFor? key (.obtain service registry) = some service :=
        if_pos hkey
      rw [Collector.service_recordAll, List.filterMap_cons, hfirst]
      exact ⟨rfl, rfl⟩
    · rw [if_neg hkey] at hnext
      have hother : CollectorStep.serviceFor? key (.obtain service registry) = none :=
        if_neg hkey
      rw [List.filterMap_cons, hother]
      exact ih hnext hc
  | @record cs last other _ call steps hthere hrest ih =>
    have hkey : other ≠ key := by
      rintro rfl
      rw [hnew] at hthere
      cases hthere
    have hnext : (cs.update other fun c ↦ (c.call call).2).get? key = none := by
      rw [get?_update, if_neg (Ne.symm hkey), hnew]
    rw [callsOn_record, if_neg hkey]
    exact ih hnext hc

/-! ## Registries -/

/-- A registry does not notice what happens to a collector that is registered elsewhere. -/
theorem published_update (cs : Collectors) {registry : Registry} (h : key.home? ≠ some registry)
    (f : Collector → Collector) : (cs.update key f).published registry = cs.published registry := by
  rw [published, published, update, List.flatMap_map]
  refine List.flatMap_congr fun entry _ ↦ ?_
  by_cases hkey : entry.1 = key
  · rw [if_pos hkey, hkey, if_neg h, if_neg h]
  · rw [if_neg hkey]

/-- A registry that has a collector refuses another one. -/
theorem obtain_within {registry : String} (h : cs.get? (.within registry) = some c)
    (service : String) :
    cs.obtain service (some registry) = (.error .duplicateMetric, cs) := by
  have hget : cs.get? (keyFor service (some registry)) = some c := h
  rw [obtain]
  simp only [hget]
  rfl

/-- The names that are taken in a registry of one's own. -/
def taken (cs : Collectors) (registry : String) : List String :=
  ((cs.get? (.within registry)).map fun c ↦ (Metric.ofService c.service).flatMap Metric.names).getD
    []

theorem register_of_nodup {names : List String} {metrics : List Metric}
    (h : (names ++ metrics.flatMap Metric.names).Nodup) :
    Metric.register names metrics = (.ok (), names ++ metrics.flatMap Metric.names) := by
  induction metrics generalizing names with
  | nil => rw [List.flatMap_nil, List.append_nil, Metric.register]
  | cons m metrics ih =>
    rw [List.flatMap_cons] at h ⊢
    have hfree : m.names.any names.contains = false := by
      obtain ⟨-, -, hdisjoint⟩ := List.nodup_append.mp h
      refine List.any_eq_false.mpr fun n hn hcontains ↦ ?_
      exact hdisjoint n (List.contains_iff_mem.mp hcontains) n (List.mem_append_left _ hn) rfl
    rw [Metric.register, hfree, if_neg Bool.false_ne_true, ← List.append_assoc]
    exact ih (by rwa [List.append_assoc])

theorem nodup_names (service : String) :
    ((Metric.ofService service).flatMap Metric.names).Nodup := by
  rw [Metric.ofService]
  split <;> decide +kernel

/-- **Registering the metrics of a collector one after the other** ends as asking for the collector
does: all of them are registered, or the first one is refused. -/
theorem register_eq_obtain (cs : Collectors) (service registry : String) :
    Metric.register (cs.taken registry) (Metric.ofService service) =
      ((cs.obtain service (some registry)).1.map fun _ ↦ (),
        (cs.obtain service (some registry)).2.taken registry) := by
  have hkey : keyFor service (some registry) = .within registry := rfl
  cases hget : cs.get? (.within registry) with
  | none =>
    have hnext := get?_obtain_of_none hget service (some registry)
    rw [if_pos hkey] at hnext
    rw [taken, taken, hget, hnext, obtain]
    simp only [hkey, hget]
    exact register_of_nodup (nodup_names service)
  | some c =>
    have htaken : cs.taken registry = (Metric.ofService c.service).flatMap Metric.names := by
      rw [taken, hget]
      rfl
    -- the first metric of every service is the same
    have hfirst (service : String) : ∃ rest, Metric.ofService service = .info :: rest := ⟨_, rfl⟩
    have hrefused : Metric.info.names.any (cs.taken registry).contains = true := by
      obtain ⟨rest, hrest⟩ := hfirst c.service
      rw [htaken, hrest, List.flatMap_cons, List.any_eq_true]
      exact ⟨Collector.infoName, List.mem_cons_self,
        List.contains_iff_mem.mpr (List.mem_append_left _ List.mem_cons_self)⟩
    obtain ⟨rest, hrest⟩ := hfirst service
    rw [obtain_within hget service, hrest, Metric.register, if_pos hrefused]
    rfl

/-- Who asks for a collector in vain changes nothing. -/
theorem obtain_of_error {service : String} {registry : Option String} {defect : Defect}
    (h : (cs.obtain service registry).1 = .error defect) : (cs.obtain service registry).2 = cs := by
  rw [obtain] at h ⊢
  cases hget : cs.get? (keyFor service registry) with
  | none => rw [hget] at h; cases h
  | some c => rfl

/-! ## All together -/

/-- After the steps every collector shows the calls that were made on it, and no other ones. -/
structure IsExact (steps : List CollectorStep) (last : Collectors) : Prop where
  shows : ∀ key c, last.get? key = some c →
    (steps.filterMap (·.serviceFor? key)).head? = some c.service ∧ c.Shows (callsOn key steps)
  /-- Operations are nothing to services that do not count them. -/
  operation : ∀ key c name outcome, last.get? key = some c → c.service ≠ "auth" →
    c.call (.operation name outcome) = (.ok (), c)
  /-- Without a registry collectors are the same if their services are, whatever happens between. -/
  shared : ∀ service other more later, Run (last.obtain service none).2 more later →
    ∃ key key', (last.obtain service none).1 = .ok key ∧ (later.obtain other none).1 = .ok key' ∧
      (key = key' ↔ service = other) ∧ (service = other → (later.obtain other none).2 = later)
  /-- A call is seen under its own key and in its own registry only. -/
  isolated : ∀ key call, let next := last.update key fun c ↦ (c.call call).2
    (∀ other, other ≠ key → next.get? other = last.get? other) ∧
      ∀ registry, key.home? ≠ some registry → next.published registry = last.published registry
  /-- Who is refused a collector has changed nothing. -/
  refused : ∀ service registry defect, (last.obtain service registry).1 = .error defect →
    (last.obtain service registry).2 = last
  /-- It makes no difference that the metrics of a collector are registered one after the other. -/
  registered : ∀ service registry,
    Metric.register (last.taken registry) (Metric.ofService service) =
      ((last.obtain service (some registry)).1.map fun _ ↦ (),
        (last.obtain service (some registry)).2.taken registry)

/-- **Counts are exact and apart.** -/
theorem run_isExact (h : Run [] steps last) : IsExact steps last where
  shows key c hc := by
    obtain ⟨hservice, hcalls⟩ := h.eq_afterCalls rfl hc
    refine ⟨hservice, ?_⟩
    rw [hcalls]
    exact Collector.shows_afterCalls _ _
  operation key c name outcome _ hservice := by
    rw [Collector.call, MetricCall.read, if_neg (Counter.authOperations_not_mem hservice)]
    rfl
  shared service other more later hmore := by
    obtain ⟨hkey, c, hc⟩ := last.obtain_shared service
    refine ⟨_, _, hkey, (later.obtain_shared other).1, ?_, ?_⟩
    · rw [CollectorKey.shared.injEq]
    · rintro rfl
      rw [obtain_of_get? (hmore.get?_of_some hc)]
  isolated key call :=
    ⟨fun other hother ↦ by rw [get?_update, if_neg hother],
      fun registry hregistry ↦ published_update last hregistry _⟩
  refused _ _ _ := obtain_of_error
  registered := last.register_eq_obtain

/-- A shared collector and one in a registry of its own, each with calls. The two requests have the
same status, once as a number and once as a text. -/
def sampleSteps : List CollectorStep :=
  [.obtain "auth" none, .obtain "gateway" (some "own"),
    .record (.shared "auth") (.request (.str "GET") (.str "/health") (.int 200)
      (.float (.ofDecimal false 25 (-2)))),
    .record (.within "own") (.error (.str "TIMEOUT") .null),
    .record (.shared "auth") (.request (.str "GET") (.str "/health") (.str "200") (.int 1)),
    .obtain "auth" (some "own")]

theorem run_isExact_sampleSteps :
    ∃ last, Run [] sampleSteps last ∧ IsExact sampleSteps last ∧
      ∃ c, last.get? (.shared "auth") = some c ∧
        ⟨"http_requests_total", RecordCall.requestLabels "GET" "/health" "200", .ofNat 2⟩ ∈
          c.samples := by
  have hrun : ∃ last, Run [] sampleSteps last :=
    ⟨_, .obtain _ _ (.obtain _ _ (.record _ rfl (.record _ rfl (.record _ rfl
      (.obtain _ _ (.done _))))))⟩
  obtain ⟨last, hrun⟩ := hrun
  have hexact := run_isExact hrun
  have hthere : ∃ c, last.get? (.shared "auth") = some c := by
    cases hrun with
    | obtain _ _ hrest => exact ⟨_, hrest.get?_of_some rfl⟩
  obtain ⟨c, hc⟩ := hthere
  refine ⟨last, hrun, hexact, c, hc, ?_⟩
  obtain ⟨hservice, hshows⟩ := hexact.shows _ c hc
  have hauth : c.service = "auth" := (Option.some.inj hservice).symm
  have htally : MetricCall.tally "auth" (callsOn (.shared "auth") sampleSteps) .requests
      (RecordCall.requestLabels "GET" "/health" "200") = 2 := by
    decide +kernel
  refine (hshows.counters .requests _ _).mpr ?_
  rw [hauth, htally]
  exact ⟨by decide, rfl⟩

end Collectors

end SessionGate
