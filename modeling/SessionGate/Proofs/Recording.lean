import SessionGate.Metrics.Calls
import SessionGate.Metrics.Collectors

/-!
# What collectors count

A collector is only ever changed by calls that record something. `RecordCall` is such a call, and
`RecordCall.counted?` says which count it raises: always by one, and never another one. So after any
calls a count is what it was before and the number of the calls that raise it, which is
`Collector.countOf_recordAll`.

What many calls do to one of several collectors is one update, `Collectors.update_update`, and an
update is seen under its own key only.
-/

namespace SessionGate

/-! ## Tables -/

namespace Table

variable {α β : Type} [DecidableEq α] {start : β}

@[simp] theorem valueOf_nil (key : α) : Table.valueOf key start [] = start := rfl

theorem valueOf_cons (key k : α) (v : β) (rest : Table α β) :
    Table.valueOf key start ((k, v) :: rest) = if k = key then v else rest.valueOf key start := rfl

theorem valueOf_adjust (key other : α) (f : β → β) (t : Table α β) :
    (t.adjust key start f).valueOf other start =
      if other = key then f (t.valueOf key start) else t.valueOf other start := by
  induction t with
  | nil =>
    rw [adjust, valueOf_cons]
    by_cases h : other = key
    · rw [if_pos h, if_pos h.symm, valueOf_nil]
    · rw [if_neg h, if_neg (Ne.symm h)]
  | cons entry rest ih =>
    obtain ⟨k, v⟩ := entry
    rw [adjust]
    by_cases hk : k = key
    · rw [if_pos hk, valueOf_cons, valueOf_cons, valueOf_cons, if_pos hk, hk]
      by_cases h : other = key
      · rw [if_pos h, if_pos h.symm]
      · rw [if_neg h, if_neg (Ne.symm h), if_neg (Ne.symm h)]
    · rw [if_neg hk, valueOf_cons, ih, valueOf_cons, valueOf_cons, if_neg hk]
      by_cases h : other = key
      · rw [if_pos h, if_pos h, if_neg (h ▸ hk)]
      · rw [if_neg h, if_neg h]

/-- A key with another value than the one to start with is there. -/
theorem mem_of_valueOf_ne {t : Table α β} {key : α} (h : t.valueOf key start ≠ start) :
    (key, t.valueOf key start) ∈ t := by
  induction t with
  | nil => exact absurd rfl h
  | cons entry rest ih =>
    obtain ⟨k, v⟩ := entry
    rw [valueOf_cons] at h ⊢
    by_cases hk : k = key
    · rw [if_pos hk, hk]
      exact List.mem_cons_self
    · rw [if_neg hk] at h ⊢
      exact List.mem_cons_of_mem _ (ih h)

def keys (t : Table α β) : List α := t.map Prod.fst

theorem mem_keys_adjust {t : Table α β} {key other : α} {f : β → β} :
    other ∈ (t.adjust key start f).keys ↔ other = key ∨ other ∈ t.keys := by
  induction t with
  | nil => simp [adjust, keys]
  | cons entry rest ih =>
    obtain ⟨k, v⟩ := entry
    rw [adjust]
    by_cases hk : k = key
    · rw [if_pos hk, ← hk]
      simp [keys]
    · rw [if_neg hk]
      have hkeys (rest : Table α β) : keys ((k, v) :: rest) = k :: keys rest := rfl
      rw [hkeys, hkeys, List.mem_cons, List.mem_cons, ih]
      exact or_left_comm

theorem nodup_keys_adjust {t : Table α β} (h : t.keys.Nodup) (key : α) (f : β → β) :
    (t.adjust key start f).keys.Nodup := by
  induction t with
  | nil => exact List.pairwise_singleton _ key
  | cons entry rest ih =>
    obtain ⟨k, v⟩ := entry
    obtain ⟨hnew, hrest⟩ := List.nodup_cons.mp h
    rw [adjust]
    by_cases hk : k = key
    · rw [if_pos hk]
      exact h
    · rw [if_neg hk]
      refine List.nodup_cons.mpr ⟨fun hmem ↦ ?_, ih hrest⟩
      exact (mem_keys_adjust.mp hmem).elim hk hnew

/-- A table with every key once holds a key with its value. -/
theorem mem_iff {t : Table α β} (h : t.keys.Nodup) {key : α} {v : β} :
    (key, v) ∈ t ↔ key ∈ t.keys ∧ t.valueOf key start = v := by
  induction t with
  | nil => simp [keys]
  | cons entry rest ih =>
    obtain ⟨k, w⟩ := entry
    obtain ⟨hnew, hrest⟩ := List.nodup_cons.mp h
    have hkeys : keys ((k, w) :: rest) = k :: keys rest := rfl
    rw [List.mem_cons, hkeys, List.mem_cons, valueOf_cons, ih hrest]
    by_cases hk : k = key
    · subst hk
      have hnew' : k ∉ keys rest := hnew
      simp [hnew', eq_comm]
    · rw [if_neg hk]
      simp [Ne.symm hk]

end Table

/-! ## Calls -/

/-- The labels of the count that a call raises in the collector of a service. -/
def RecordCall.counted? (service : String) : RecordCall → Option (Counter × List Text)
  | request method endpoint status _ => some (.requests, [method, endpoint, status])
  | health status => some (.healthChecks, [status])
  | error type other => some (.errors, [type, if other = "" then service else other])
  | operation name outcome =>
    if service = "auth" then some (.authOperations, [name, outcome]) else none

/-- The counters that every service has. -/
theorem Counter.mem_ofService_iff (counter : Counter) (service : String) :
    counter ∈ ofService service ↔ counter ≠ .authOperations ∨ service = "auth" := by
  rw [ofService, List.mem_append]
  by_cases h : service = "auth"
  · rw [if_pos h]
    cases counter <;> simp [h]
  · rw [if_neg h]
    cases counter <;> simp [h]

theorem Counter.authOperations_not_mem {service : String} (h : service ≠ "auth") :
    authOperations ∉ ofService service := by
  rw [mem_ofService_iff]
  exact fun hmem ↦ hmem.elim (fun hne ↦ hne rfl) h

namespace Collector

variable (c : Collector)

def recordAll (calls : List RecordCall) : Collector :=
  calls.foldl record c

@[simp] theorem recordAll_nil : c.recordAll [] = c := rfl

theorem recordAll_append (calls more : List RecordCall) :
    c.recordAll (calls ++ more) = (c.recordAll calls).recordAll more :=
  List.foldl_append

@[simp] theorem service_count (counter : Counter) (values : List Text) :
    (c.count counter values).service = c.service := by
  rw [count]
  split <;> rfl

@[simp] theorem service_record (call : RecordCall) : (c.record call).service = c.service := by
  cases call with
  | request method endpoint status duration =>
    cases duration <;> exact c.service_count _ _
  | health status => exact c.service_count _ _
  | error type service => exact c.service_count _ _
  | operation name outcome => exact c.service_count _ _

@[simp] theorem service_recordAll (calls : List RecordCall) :
    (c.recordAll calls).service = c.service := by
  induction calls generalizing c with
  | nil => rfl
  | cons call calls ih => exact (ih (c.record call)).trans (c.service_record call)

theorem countOf_count (counter other : Counter) (values labels : List Text) :
    (c.count counter values).countOf other labels =
      c.countOf other labels +
        if counter ∈ Counter.ofService c.service ∧ (counter, values) = (other, labels) then 1
        else 0 := by
  rw [count]
  by_cases hmem : counter ∈ Counter.ofService c.service
  · rw [if_pos hmem, countOf, Table.valueOf_adjust, countOf]
    by_cases h : (other, labels) = (counter, values)
    · rw [if_pos h, if_pos ⟨hmem, h.symm⟩, h]
    · rw [if_neg h, if_neg fun hboth ↦ h hboth.2.symm]
      rfl
  · rw [if_neg hmem, if_neg fun hboth ↦ hmem hboth.1]
    rfl

/-- A call raises one count by one. -/
theorem countOf_record (call : RecordCall) (counter : Counter) (labels : List Text) :
    (c.record call).countOf counter labels =
      c.countOf counter labels +
        if call.counted? c.service = some (counter, labels) then 1 else 0 := by
  have hevery (counter other : Counter) (values : List Text) (h : counter ≠ .authOperations) :
      (c.count counter values).countOf other labels =
        c.countOf other labels +
          if some (counter, values) = some (other, labels) then 1 else 0 := by
    have hmem : counter ∈ Counter.ofService c.service :=
      (Counter.mem_ofService_iff counter c.service).mpr (.inl h)
    rw [countOf_count]
    simp only [hmem, true_and, Option.some.injEq]
  cases call with
  | request method endpoint status duration =>
    have hobserved : (c.record (.request method endpoint status duration)).countOf counter labels =
        (c.count .requests [method, endpoint, status]).countOf counter labels := by
      cases duration <;> rfl
    rw [hobserved]
    exact hevery _ _ _ (by decide)
  | health status => exact hevery _ _ _ (by decide)
  | error type service => exact hevery _ _ _ (by decide)
  | operation name outcome =>
    rw [record, recordOperation, countOf_count, RecordCall.counted?]
    by_cases h : c.service = "auth"
    · have hmem := (Counter.mem_ofService_iff .authOperations c.service).mpr (.inr h)
      simp only [hmem, true_and, if_pos h, Option.some.injEq]
    · simp [Counter.authOperations_not_mem h, h]

/-- **A count is the number of the calls that raise it.** -/
theorem countOf_recordAll (calls : List RecordCall) (counter : Counter) (labels : List Text) :
    (c.recordAll calls).countOf counter labels =
      c.countOf counter labels +
        calls.countP fun call ↦ decide (call.counted? c.service = some (counter, labels)) := by
  induction calls generalizing c with
  | nil => rfl
  | cons call calls ih =>
    have hstep : c.recordAll (call :: calls) = (c.record call).recordAll calls := rfl
    rw [hstep, ih, countOf_record, service_record, List.countP_cons]
    simp only [decide_eq_true_eq]
    omega

/-- What has been counted is among the samples, with its count. -/
theorem countSample_mem_samples {counter : Counter} {labels : List Text}
    (h : c.countOf counter labels ≠ 0) :
    countSample ((counter, labels), c.countOf counter labels) ∈ c.samples := by
  have hentry : ((counter, labels), c.countOf counter labels) ∈ c.counts :=
    Table.mem_of_valueOf_ne h
  rw [samples, List.cons_append]
  exact List.mem_cons_of_mem _ (List.mem_append_left _ (List.mem_map_of_mem hentry))

end Collector

/-! ## Several collectors -/

namespace Collectors

variable (cs : Collectors)

theorem get?_cons (k other : CollectorKey) (c : Collector) (rest : Collectors) :
    get? ((k, c) :: rest) other = if other = k then some c else rest.get? other := by
  rw [get?, List.lookup_cons]
  by_cases h : other = k
  · rw [if_pos h, beq_iff_eq.mpr h]
  · rw [if_neg h, beq_eq_false_iff_ne.mpr h, get?]

theorem update_cons (k key : CollectorKey) (c : Collector) (rest : Collectors)
    (f : Collector → Collector) :
    update ((k, c) :: rest) key f = (k, if k = key then f c else c) :: update rest key f := by
  rw [update, List.map_cons]
  by_cases h : k = key
  · rw [if_pos h, if_pos h]
    rfl
  · rw [if_neg h, if_neg h]
    rfl

theorem get?_update (key other : CollectorKey) (f : Collector → Collector) :
    (cs.update key f).get? other =
      if other = key then (cs.get? key).map f else cs.get? other := by
  induction cs with
  | nil => by_cases h : other = key <;> simp [h, update, get?]
  | cons entry rest ih =>
    obtain ⟨k, c⟩ := entry
    rw [update_cons, get?_cons, get?_cons, get?_cons, ih]
    by_cases hk : other = k
    · rw [if_pos hk, ← hk]
      by_cases h : other = key
      · rw [if_pos h, if_pos h, if_pos h.symm]
        rfl
      · rw [if_neg h, if_neg h, if_pos rfl]
    · rw [if_neg hk]
      by_cases h : other = key
      · rw [if_pos h, if_pos h, if_neg (h ▸ hk)]
      · rw [if_neg h, if_neg h, if_neg hk]

theorem update_update (key : CollectorKey) (f g : Collector → Collector) :
    (cs.update key f).update key g = cs.update key fun c ↦ g (f c) := by
  rw [update, update, update, List.map_map]
  refine List.map_congr_left fun entry _ ↦ ?_
  by_cases h : entry.1 = key
  · simp [h]
  · simp [h]

theorem update_id (key : CollectorKey) : cs.update key (fun c ↦ c) = cs := by
  rw [update]
  simp

end Collectors

/-! ## Keys -/

namespace Collectors

def keys (cs : Collectors) : List CollectorKey := cs.map Prod.fst

theorem keys_update (cs : Collectors) (key : CollectorKey) (f : Collector → Collector) :
    (cs.update key f).keys = cs.keys := by
  rw [keys, keys, update, List.map_map]
  refine List.map_congr_left fun entry _ ↦ ?_
  by_cases h : entry.1 = key
  · simp [h]
  · simp [h]

theorem get?_eq_none_iff {cs : Collectors} {key : CollectorKey} :
    cs.get? key = none ↔ key ∉ cs.keys := by
  induction cs with
  | nil => simp [get?, keys]
  | cons entry rest ih =>
    obtain ⟨k, c⟩ := entry
    have hkeys : keys ((k, c) :: rest) = k :: keys rest := rfl
    rw [get?_cons, hkeys, List.mem_cons, not_or]
    by_cases h : key = k
    · simp [h]
    · rw [if_neg h, ih]
      simp [h]

/-- Asking for a collector makes none that is there already. -/
theorem nodup_keys_obtain {cs : Collectors} (h : cs.keys.Nodup) (service : String)
    (registry : Option String) : (cs.obtain service registry).2.keys.Nodup := by
  rw [obtain]
  cases hget : cs.get? (keyFor service registry) with
  | some c => exact h
  | none =>
    have hnew : keyFor service registry ∉ cs.keys := get?_eq_none_iff.mp hget
    have hkeys : keys (cs ++ [(keyFor service registry, { service := service })]) =
        cs.keys ++ [keyFor service registry] := List.map_append
    rw [hkeys]
    refine List.nodup_append.mpr ⟨h, List.pairwise_singleton _ _, ?_⟩
    intro key hkey other hother heq
    exact hnew (List.mem_singleton.mp hother ▸ heq ▸ hkey)

/-- A shared collector that is there is the one that is asked for. -/
theorem obtain_of_get? {cs : Collectors} {service : String} {c : Collector}
    (h : cs.get? (.shared service) = some c) :
    cs.obtain service none = (.ok (.shared service), cs) := by
  have hget : cs.get? (keyFor service none) = some c := h
  rw [obtain]
  simp only [hget]
  rfl

/-- A shared collector that has been asked for is there. -/
theorem obtain_shared (cs : Collectors) (service : String) :
    (cs.obtain service none).1 = .ok (.shared service) ∧
      ∃ c, (cs.obtain service none).2.get? (.shared service) = some c := by
  cases hget : cs.get? (.shared service) with
  | some c =>
    rw [obtain_of_get? hget]
    exact ⟨rfl, c, hget⟩
  | none =>
    have hnew : cs.obtain service none =
        (.ok (.shared service), cs ++ [(.shared service, { service := service })]) := by
      have hnone : cs.get? (keyFor service none) = none := hget
      rw [obtain]
      simp only [hnone]
      rfl
    have hlookup : cs.lookup (.shared service) = none := hget
    rw [hnew]
    exact ⟨rfl, { service }, by simp [Collectors.get?, List.lookup_append, hlookup]⟩

/-- Asking again gives the same collector and makes none. -/
theorem obtain_again (cs : Collectors) (service : String) :
    (cs.obtain service none).1 = .ok (.shared service) ∧
      (cs.obtain service none).2.obtain service none =
        (.ok (.shared service), (cs.obtain service none).2) := by
  obtain ⟨hkey, c, hc⟩ := cs.obtain_shared service
  exact ⟨hkey, obtain_of_get? hc⟩

/-- Nothing is registered in the common registry. -/
theorem published_common (cs : Collectors) : cs.published .common = [] := by
  rw [published, List.flatMap_eq_nil_iff]
  intro entry _
  cases entry.1 with
  | shared service => rfl
  | within registry => rfl

/-- A collector that is asked for does not touch those that are there. -/
theorem get?_obtain {cs : Collectors} {key : CollectorKey} {c : Collector}
    (h : cs.get? key = some c) (service : String) (registry : Option String) :
    (cs.obtain service registry).2.get? key = some c := by
  rw [obtain]
  cases cs.get? (keyFor service registry) with
  | some c => exact h
  | none =>
    have hlookup : cs.lookup key = some c := h
    simp [Collectors.get?, List.lookup_append, hlookup]

end Collectors

end SessionGate
