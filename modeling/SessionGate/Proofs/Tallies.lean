import Mathlib.Algebra.BigOperators.Finprod
import SessionGate.Proofs.NumberOrder
import SessionGate.Proofs.Recording

/-!
# What a collector publishes of the calls made on it

A collector that has been made and called is known by its calls. For a counter and labels it
publishes the number of the calls with these labels, and nothing if there is none:
`Collector.counter_mem_samples_iff`. For a method and an endpoint it publishes how many of the
durations are within each bound: `Collector.bucket_mem_samples_iff`.

## Two counts of the same requests

A request is counted together with its status, and timed without it. So the number of durations is a
sum over all statuses, if every duration is a number: `Collector.countWithin_infinite`.
-/

namespace SessionGate

/-! ## Names -/

def Duration.sampleNames : List String := [name ++ "_bucket", name ++ "_count", name ++ "_sum"]

/-- No two bounds are written alike. -/
theorem Duration.nodup_boundTexts : (bounds.map boundText).Nodup := by
  decide +kernel

theorem Duration.infoName_not_mem : Collector.infoName ++ "_info" ∉ sampleNames := by
  decide

namespace Counter

theorem name_injective {a b : Counter} (h : a.name = b.name) : a = b := by
  cases a <;> cases b <;> revert h <;> decide

theorem name_ne_info (counter : Counter) : counter.name ≠ Collector.infoName ++ "_info" := by
  cases counter <;> decide

theorem name_not_mem_durations (counter : Counter) :
    counter.name ∉ Duration.sampleNames := by
  cases counter <;> decide

end Counter

/-! ## Calls -/

namespace RecordCall

/-- The counter that a call raises, and the labels under which it does. -/
def labelled? (service : String) (call : RecordCall) : Option (Counter × List (String × Text)) :=
  (call.counted? service).map fun entry ↦ (entry.1, entry.1.labelNames.zip entry.2)

/-- The label values that a request is timed under. -/
def timed? : RecordCall → Option (List Text)
  | request method endpoint _ _ => some [method, endpoint]
  | _ => none

/-- The durations that a call adds to those of some label values. -/
def durationsAt (values : List Text) : RecordCall → List Binary64
  | request method endpoint _ duration =>
    if [method, endpoint] = values then duration.toOption.toList else []
  | _ => []

variable {service : String} {call : RecordCall} {counter : Counter} {values : List Text}

theorem length_of_counted? (h : call.counted? service = some (counter, values)) :
    values.length = counter.labelNames.length := by
  cases call with
  | operation name outcome =>
    rw [counted?] at h
    split at h <;> cases h
    rfl
  | _ => cases h; rfl

/-- The labels tell the values. -/
theorem labelled?_eq_some_iff (hlength : values.length = counter.labelNames.length) :
    call.labelled? service = some (counter, counter.labelNames.zip values) ↔
      call.counted? service = some (counter, values) := by
  rw [labelled?, Option.map_eq_some_iff]
  constructor
  · rintro ⟨⟨other, values'⟩, hcounted, heq⟩
    obtain ⟨rfl, hzip⟩ := Prod.mk.inj heq
    have hlength' := length_of_counted? hcounted
    have hvalues : values' = values := by
      rw [← List.map_snd_zip hlength'.le, ← List.map_snd_zip hlength.le, hzip]
    rw [hcounted, hvalues]
  · intro hcounted
    exact ⟨_, hcounted, rfl⟩

end RecordCall

/-! ## Tables of a collector -/

namespace Collector

variable {c : Collector}

def durationsOf (c : Collector) (values : List Text) : List Binary64 :=
  c.durations.valueOf values []

/-- Every key stands once in the tables and has one value for each label, and a count that is there
is not zero. -/
structure IsTidy (c : Collector) : Prop where
  counts_nodup : c.counts.keys.Nodup
  counts_ne_zero : ∀ key ∈ c.counts.keys, c.counts.valueOf key 0 ≠ 0
  counts_length : ∀ key ∈ c.counts.keys, key.2.length = key.1.labelNames.length
  durations_nodup : c.durations.keys.Nodup
  durations_length : ∀ values ∈ c.durations.keys, values.length = Duration.labelNames.length

theorem isTidy_empty (service : String) : IsTidy { service } where
  counts_nodup := List.nodup_nil
  counts_ne_zero _ h := nomatch h
  counts_length _ h := nomatch h
  durations_nodup := List.nodup_nil
  durations_length _ h := nomatch h

theorem IsTidy.count (h : c.IsTidy) {counter : Counter} {values : List Text}
    (hlength : values.length = counter.labelNames.length) : (c.count counter values).IsTidy := by
  rw [Collector.count]
  split
  · refine ⟨Table.nodup_keys_adjust h.counts_nodup _ _, fun key hkey ↦ ?_, fun key hkey ↦ ?_,
      h.durations_nodup, h.durations_length⟩
    · rw [Table.valueOf_adjust]
      split
      · exact Nat.succ_ne_zero _
      · next hne => exact h.counts_ne_zero key ((Table.mem_keys_adjust.mp hkey).resolve_left hne)
    · rcases Table.mem_keys_adjust.mp hkey with rfl | hold
      · exact hlength
      · exact h.counts_length key hold
  · exact h

theorem IsTidy.observe (h : c.IsTidy) {values : List Text} (xs : List Binary64)
    (hlength : values.length = Duration.labelNames.length) : (c.observe values xs).IsTidy where
  counts_nodup := h.counts_nodup
  counts_ne_zero := h.counts_ne_zero
  counts_length := h.counts_length
  durations_nodup := Table.nodup_keys_adjust h.durations_nodup _ _
  durations_length other hother := by
    rcases Table.mem_keys_adjust.mp hother with rfl | hold
    · exact hlength
    · exact h.durations_length other hold

/-- A request is counted and timed. -/
theorem record_request (c : Collector) (method endpoint status : Text)
    (duration : Except Defect Binary64) :
    c.record (.request method endpoint status duration) =
      (c.count .requests [method, endpoint, status]).observe [method, endpoint]
        duration.toOption.toList := by
  cases duration <;> rfl

theorem IsTidy.record (h : c.IsTidy) (call : RecordCall) : (c.record call).IsTidy := by
  cases call with
  | request method endpoint status duration =>
    rw [record_request]
    have hcount := @IsTidy.count c h .requests [method, endpoint, status] rfl
    exact @IsTidy.observe _ hcount [method, endpoint] _ rfl
  | health status => exact @IsTidy.count c h .healthChecks [status] rfl
  | error type service => exact @IsTidy.count c h .errors [type, _] rfl
  | operation name outcome => exact @IsTidy.count c h .authOperations [name, outcome] rfl

theorem IsTidy.recordAll (h : c.IsTidy) (calls : List RecordCall) : (c.recordAll calls).IsTidy := by
  induction calls generalizing c with
  | nil => exact h
  | cons call calls ih => exact ih (h.record call)

theorem durations_count (c : Collector) (counter : Counter) (values : List Text) :
    (c.count counter values).durations = c.durations := by
  rw [count]
  split <;> rfl

theorem durationsOf_record (c : Collector) (call : RecordCall) (values : List Text) :
    (c.record call).durationsOf values = c.durationsOf values ++ call.durationsAt values := by
  have hcount (counter : Counter) (labels : List Text) :
      (c.count counter labels).durationsOf values = c.durationsOf values ++ [] := by
    rw [durationsOf, durations_count, List.append_nil, durationsOf]
  cases call with
  | request method endpoint status duration =>
    rw [record_request, durationsOf, observe, Table.valueOf_adjust, durations_count,
      RecordCall.durationsAt]
    by_cases h : [method, endpoint] = values
    · rw [if_pos h.symm, if_pos h, h, durationsOf]
    · rw [if_neg (Ne.symm h), if_neg h, List.append_nil, durationsOf]
  | health status => exact hcount _ _
  | error type service => exact hcount _ _
  | operation name outcome => exact hcount _ _

theorem durationsOf_recordAll (c : Collector) (calls : List RecordCall) (values : List Text) :
    (c.recordAll calls).durationsOf values =
      c.durationsOf values ++ calls.flatMap (·.durationsAt values) := by
  induction calls generalizing c with
  | nil => exact (List.append_nil _).symm
  | cons call calls ih =>
    have hstep : c.recordAll (call :: calls) = (c.record call).recordAll calls := rfl
    rw [hstep, ih, durationsOf_record, List.append_assoc, List.flatMap_cons]

theorem mem_durations_record (c : Collector) (call : RecordCall) (values : List Text) :
    values ∈ (c.record call).durations.keys ↔
      values ∈ c.durations.keys ∨ call.timed? = some values := by
  cases call with
  | request method endpoint status duration =>
    rw [record_request, observe, Table.mem_keys_adjust, durations_count, RecordCall.timed?,
      Option.some.injEq, or_comm, eq_comm]
  | _ =>
    simp only [RecordCall.timed?, reduceCtorEq, or_false]
    exact iff_of_eq (congrArg (values ∈ Table.keys ·) (c.durations_count _ _))

theorem mem_durations_recordAll (c : Collector) (calls : List RecordCall) (values : List Text) :
    values ∈ (c.recordAll calls).durations.keys ↔
      values ∈ c.durations.keys ∨ ∃ call ∈ calls, call.timed? = some values := by
  induction calls generalizing c with
  | nil => simp
  | cons call calls ih =>
    have hstep : c.recordAll (call :: calls) = (c.record call).recordAll calls := rfl
    rw [hstep, ih, mem_durations_record, or_assoc]
    simp

/-! ## Samples -/

def bucketSample (method endpoint : Text) (bound x : Binary64) : Sample :=
  ⟨Duration.name ++ "_bucket",
    [("method", method), ("endpoint", endpoint), ("le", Duration.boundText bound)], x⟩

def durationCountSample (method endpoint : Text) (x : Binary64) : Sample :=
  ⟨Duration.name ++ "_count", [("method", method), ("endpoint", endpoint)], x⟩

theorem mem_samples_iff (c : Collector) (s : Sample) :
    s ∈ c.samples ↔ s = c.infoSample ∨ (∃ entry ∈ c.counts, s = countSample entry) ∨
      ∃ entry ∈ c.durations, s ∈ Duration.samples entry.1 entry.2 := by
  simp only [samples, List.cons_append, List.mem_cons, List.mem_append, List.mem_map,
    List.mem_flatMap, @eq_comm _ (countSample _)]

theorem name_of_mem_durations {values : List Text} {xs : List Binary64} {s : Sample}
    (h : s ∈ Duration.samples values xs) : s.name ∈ Duration.sampleNames := by
  rw [Duration.samples] at h
  rcases List.mem_append.mp h with h | h
  · obtain ⟨bound, -, rfl⟩ := List.mem_map.mp h
    exact List.mem_cons_self
  · rcases List.mem_cons.mp h with rfl | h
    · exact List.mem_cons_of_mem _ List.mem_cons_self
    · rw [List.mem_singleton.mp h]
      exact List.mem_cons_of_mem _ (List.mem_cons_of_mem _ List.mem_cons_self)

/-- **What is published of a counter**: the counts that are not zero. -/
theorem IsTidy.counter_mem_samples_iff (h : c.IsTidy) {counter : Counter}
    {labels : List (String × Text)} {x : Binary64} :
    ⟨counter.name, labels, x⟩ ∈ c.samples ↔
      ∃ values, labels = counter.labelNames.zip values ∧
        values.length = counter.labelNames.length ∧ c.countOf counter values ≠ 0 ∧
        x = .ofNat (c.countOf counter values) := by
  rw [mem_samples_iff]
  constructor
  · rintro (hsample | ⟨⟨⟨other, values⟩, n⟩, hmem, hsample⟩ | ⟨entry, -, hmem⟩)
    · exact absurd (congrArg Sample.name hsample) counter.name_ne_info
    · obtain ⟨hname, hlabels, hvalue⟩ := Sample.mk.inj hsample
      obtain rfl := Counter.name_injective hname
      obtain ⟨hkey, rfl⟩ := (@Table.mem_iff _ _ _ 0 _ h.counts_nodup _ _).mp hmem
      exact ⟨values, hlabels, h.counts_length _ hkey, h.counts_ne_zero _ hkey, hvalue⟩
    · exact absurd (name_of_mem_durations hmem) counter.name_not_mem_durations
  · rintro ⟨values, rfl, hlength, hne, rfl⟩
    exact .inr (.inl ⟨_, Table.mem_of_valueOf_ne hne, rfl⟩)

theorem bucketSample_mem_durations_iff {values : List Text} {xs : List Binary64}
    (hlength : values.length = Duration.labelNames.length) {method endpoint : Text}
    {bound x : Binary64} (hbound : bound ∈ Duration.bounds) :
    bucketSample method endpoint bound x ∈ Duration.samples values xs ↔
      values = [method, endpoint] ∧ x = .ofNat (Duration.countWithin xs bound) := by
  obtain ⟨first, second, rfl⟩ := List.length_eq_two.mp hlength
  rw [Duration.samples, List.mem_append]
  constructor
  · rintro (h | h)
    · obtain ⟨bound', hbound', h⟩ := List.mem_map.mp h
      obtain ⟨-, hlabels, hvalue⟩ := Sample.mk.inj h
      simp only [Duration.labelNames, List.zip_cons_cons, List.zip_nil_right, List.cons_append,
        List.nil_append, List.cons.injEq, Prod.mk.injEq, Text.plain.injEq, true_and,
        and_true] at hlabels
      obtain ⟨rfl, rfl, htext⟩ := hlabels
      rw [List.inj_on_of_nodup_map Duration.nodup_boundTexts hbound' hbound htext] at hvalue
      exact ⟨rfl, hvalue.symm⟩
    · simp only [bucketSample, List.mem_cons, List.not_mem_nil, or_false, Sample.mk.injEq] at h
      rcases h with ⟨hname, -⟩ | ⟨hname, -⟩ <;> exact absurd hname (by decide)
  · rintro ⟨hvalues, rfl⟩
    obtain ⟨rfl, hrest⟩ := List.cons.inj hvalues
    obtain ⟨rfl, -⟩ := List.cons.inj hrest
    exact .inl (List.mem_map.mpr ⟨bound, hbound, rfl⟩)

theorem durationCountSample_mem_durations_iff {values : List Text} {xs : List Binary64}
    (hlength : values.length = Duration.labelNames.length) {method endpoint : Text}
    {x : Binary64} :
    durationCountSample method endpoint x ∈ Duration.samples values xs ↔
      values = [method, endpoint] ∧ x = .ofNat (Duration.countWithin xs (.infinite false)) := by
  obtain ⟨first, second, rfl⟩ := List.length_eq_two.mp hlength
  rw [Duration.samples, List.mem_append]
  constructor
  · rintro (h | h)
    · obtain ⟨bound, -, h⟩ := List.mem_map.mp h
      exact absurd (Sample.mk.inj h).1 (by decide)
    · simp only [durationCountSample, List.mem_cons, List.not_mem_nil, or_false,
        Sample.mk.injEq] at h
      rcases h with ⟨-, hlabels, hvalue⟩ | ⟨hname, -⟩
      · simp only [Duration.labelNames, List.zip_cons_cons, List.zip_nil_right, List.cons.injEq,
          Prod.mk.injEq, true_and, and_true] at hlabels
        obtain ⟨rfl, rfl⟩ := hlabels
        exact ⟨rfl, hvalue⟩
      · exact absurd hname (by decide)
  · rintro ⟨hvalues, rfl⟩
    obtain ⟨rfl, hrest⟩ := List.cons.inj hvalues
    obtain ⟨rfl, -⟩ := List.cons.inj hrest
    exact .inr List.mem_cons_self

/-- A sample of durations is found under its label values. -/
theorem IsTidy.durations_mem_samples_iff (h : c.IsTidy) {s : Sample}
    (hname : s.name ∈ Duration.sampleNames) {values : List Text} {p : List Binary64 → Prop}
    (hs : ∀ values' xs, values'.length = Duration.labelNames.length →
      (s ∈ Duration.samples values' xs ↔ values' = values ∧ p xs)) :
    s ∈ c.samples ↔ values ∈ c.durations.keys ∧ p (c.durationsOf values) := by
  have hmem {xs : List Binary64} := @Table.mem_iff _ _ _ [] _ h.durations_nodup values xs
  rw [mem_samples_iff]
  constructor
  · rintro (rfl | ⟨entry, -, rfl⟩ | ⟨⟨values', xs⟩, hentry, hsample⟩)
    · exact absurd hname Duration.infoName_not_mem
    · exact absurd hname entry.1.1.name_not_mem_durations
    · have hlength := h.durations_length values' (List.mem_map_of_mem hentry)
      obtain ⟨rfl, hp⟩ := (hs values' xs hlength).mp hsample
      obtain ⟨hkey, rfl⟩ := hmem.mp hentry
      exact ⟨hkey, hp⟩
  · rintro ⟨hkey, hp⟩
    have hlength := h.durations_length values hkey
    exact .inr (.inr ⟨(values, c.durationsOf values), hmem.mpr ⟨hkey, rfl⟩,
      (hs values _ hlength).mpr ⟨rfl, hp⟩⟩)

/-- **What is published of durations**: for each bound how many are within it. -/
theorem IsTidy.bucket_mem_samples_iff (h : c.IsTidy) {method endpoint : Text}
    {bound x : Binary64} (hbound : bound ∈ Duration.bounds) :
    bucketSample method endpoint bound x ∈ c.samples ↔
      [method, endpoint] ∈ c.durations.keys ∧
        x = .ofNat (Duration.countWithin (c.durationsOf [method, endpoint]) bound) :=
  h.durations_mem_samples_iff List.mem_cons_self
    fun _ _ hlength ↦ bucketSample_mem_durations_iff hlength hbound

theorem IsTidy.durationCount_mem_samples_iff (h : c.IsTidy) {method endpoint : Text}
    {x : Binary64} :
    durationCountSample method endpoint x ∈ c.samples ↔
      [method, endpoint] ∈ c.durations.keys ∧
        x = .ofNat (Duration.countWithin (c.durationsOf [method, endpoint]) (.infinite false)) :=
  h.durations_mem_samples_iff (List.mem_cons_of_mem _ List.mem_cons_self)
    fun _ _ hlength ↦ durationCountSample_mem_durations_iff hlength

end Collector

/-! ## Sums -/

/-- Things that are counted apart for each value of a function are counted altogether. -/
theorem finsum_countP {α β : Type} [DecidableEq β] (f : α → Option β) (xs : List α) :
    ∑ᶠ b, xs.countP (fun a ↦ decide (f a = some b)) = xs.countP fun a ↦ (f a).isSome := by
  induction xs with
  | nil => simp
  | cons a xs ih =>
    have hrest : (fun b ↦ xs.countP fun a ↦ decide (f a = some b)).HasFiniteSupport := by
      refine (xs.filterMap f).finite_toSet.subset fun b hb ↦ ?_
      obtain ⟨a', ha', hfa⟩ := List.countP_pos_iff.mp (Nat.pos_of_ne_zero hb)
      exact List.mem_filterMap.mpr ⟨a', ha', of_decide_eq_true hfa⟩
    have hfirst : (fun b ↦ if f a = some b then 1 else 0).HasFiniteSupport := by
      refine (f a).toList.finite_toSet.subset fun b hb ↦ ?_
      have hfa : f a = some b := by_contra fun hne ↦ hb (if_neg hne)
      exact Option.mem_toList.mpr hfa
    have hone : ∑ᶠ b, (if f a = some b then 1 else 0) = if (f a).isSome then 1 else 0 := by
      cases hfa : f a with
      | none => simp
      | some b =>
        rw [finsum_eq_single _ b fun b' hne ↦ if_neg fun heq ↦ hne (Option.some.inj heq).symm]
        simp
    simp only [List.countP_cons, decide_eq_true_eq]
    rw [finsum_add_distrib hrest hfirst, ih, hone]

namespace Duration

/-- A larger bound has no fewer durations within it. -/
theorem countWithin_mono (xs : List Binary64) {bound larger : Binary64}
    (h : bound.le larger = true) : countWithin xs bound ≤ countWithin xs larger :=
  List.countP_mono_left fun _ _ hx ↦ Binary64.le_trans hx h

/-- Every number that is finite is within the last bound. -/
theorem countWithin_infinite {xs : List Binary64} (h : ∀ x ∈ xs, x.isFinite = true) :
    countWithin xs (.infinite false) = xs.length := by
  refine List.countP_eq_length.mpr fun x hx ↦ ?_
  cases x with
  | finite s m e => rfl
  | _ => exact absurd (h _ hx) Bool.false_ne_true

end Duration

namespace RecordCall

/-- The duration of a request is a number, and a finite one. -/
def IsFinite : RecordCall → Prop
  | request _ _ _ duration => ∃ x, duration = .ok x ∧ x.isFinite = true
  | _ => True

def statusAt? (method endpoint : Text) : RecordCall → Option Text
  | request method' endpoint' status _ =>
    if method' = method ∧ endpoint' = endpoint then some status else none
  | _ => none

def requestLabels (method endpoint status : Text) : List (String × Text) :=
  [("method", method), ("endpoint", endpoint), ("status_code", status)]

theorem labelled?_requests_iff {service : String} {method endpoint status : Text}
    {call : RecordCall} :
    call.labelled? service = some (.requests, requestLabels method endpoint status) ↔
      call.statusAt? method endpoint = some status := by
  cases call with
  | request method' endpoint' status' duration =>
    simp [labelled?, counted?, statusAt?, requestLabels, Counter.labelNames, and_assoc]
  | operation name outcome =>
    by_cases h : service = "auth" <;> simp [labelled?, counted?, statusAt?, h]
  | _ => simp [labelled?, counted?, statusAt?]

theorem isSome_statusAt? {method endpoint : Text} {call : RecordCall} :
    (call.statusAt? method endpoint).isSome = decide (call.timed? = some [method, endpoint]) := by
  cases call with
  | request method' endpoint' status duration =>
    by_cases h : method' = method ∧ endpoint' = endpoint <;> simp [statusAt?, timed?, h]
  | _ => rfl

/-- A request with a finite duration adds one duration. -/
theorem length_durationsAt {call : RecordCall} (h : call.IsFinite) (values : List Text) :
    (call.durationsAt values).length = if call.timed? = some values then 1 else 0 := by
  cases call with
  | request method endpoint status duration =>
    obtain ⟨x, rfl, -⟩ := h
    rw [durationsAt, timed?]
    by_cases hvalues : [method, endpoint] = values <;> simp [hvalues, Except.toOption]
  | _ => rfl

theorem isFinite_of_mem_durationsAt {call : RecordCall} (h : call.IsFinite) {values : List Text}
    {x : Binary64} (hx : x ∈ call.durationsAt values) : x.isFinite = true := by
  cases call with
  | request method endpoint status duration =>
    obtain ⟨y, rfl, hy⟩ := h
    rw [durationsAt] at hx
    split at hx
    · rw [List.mem_singleton.mp hx]
      exact hy
    · cases hx
  | _ => cases hx

end RecordCall

namespace Collector

variable (service : String) (calls : List RecordCall)

/-- How many of the calls raise a counter under some labels. -/
def tally (counter : Counter) (labels : List (String × Text)) : Nat :=
  calls.countP fun call ↦ decide (call.labelled? service = some (counter, labels))

/-- **A counter shows how many calls there were with the labels.** -/
theorem counter_mem_samples_iff {counter : Counter} {labels : List (String × Text)}
    {x : Binary64} :
    ⟨counter.name, labels, x⟩ ∈ (recordAll { service } calls).samples ↔
      tally service calls counter labels ≠ 0 ∧ x = .ofNat (tally service calls counter labels) := by
  have htidy := (isTidy_empty service).recordAll calls
  have hcount {values : List Text} (hlength : values.length = counter.labelNames.length) :
      (recordAll { service } calls).countOf counter values =
        tally service calls counter (counter.labelNames.zip values) := by
    rw [countOf_recordAll, tally]
    simp only [RecordCall.labelled?_eq_some_iff hlength]
    exact Nat.zero_add _
  rw [htidy.counter_mem_samples_iff]
  constructor
  · rintro ⟨values, rfl, hlength, hne, rfl⟩
    rw [hcount hlength] at hne ⊢
    exact ⟨hne, rfl⟩
  · rintro ⟨hne, rfl⟩
    -- there is a call with the labels, and they are those of its values
    obtain ⟨call, -, hcall⟩ := List.countP_pos_iff.mp (Nat.pos_of_ne_zero hne)
    obtain ⟨⟨counter', values⟩, hcounted, heq⟩ :=
      Option.map_eq_some_iff.mp (of_decide_eq_true hcall)
    obtain ⟨rfl, rfl⟩ := Prod.mk.inj heq
    have hlength := RecordCall.length_of_counted? hcounted
    rw [← hcount hlength] at hne ⊢
    exact ⟨values, rfl, hlength, hne, rfl⟩

/-- The samples of the durations for a method and an endpoint are those of so many durations. A
larger bound has no smaller value, and the last one has the number of all. -/
structure Balances (c : Collector) (method endpoint : Text) (total : Nat) : Prop where
  bucket_exists : ∀ bound ∈ Duration.bounds,
    (∃ x, bucketSample method endpoint bound x ∈ c.samples) ↔ total ≠ 0
  bucket_le : ∀ bound ∈ Duration.bounds, ∀ larger ∈ Duration.bounds, bound.le larger = true →
    ∀ x y, bucketSample method endpoint bound x ∈ c.samples →
      bucketSample method endpoint larger y ∈ c.samples → x.le y = true
  bucket_infinite : ∀ x, bucketSample method endpoint (.infinite false) x ∈ c.samples ↔
    total ≠ 0 ∧ x = .ofNat total
  count : ∀ x, durationCountSample method endpoint x ∈ c.samples ↔ total ≠ 0 ∧ x = .ofNat total

variable {service calls} {method endpoint : Text}

theorem length_durationsOf (hfinite : ∀ call ∈ calls, call.IsFinite) (values : List Text) :
    ((recordAll { service } calls).durationsOf values).length =
      calls.countP fun call ↦ decide (call.timed? = some values) := by
  rw [durationsOf_recordAll]
  have hempty : durationsOf { service } values = [] := rfl
  rw [hempty, List.nil_append]
  induction calls with
  | nil => rfl
  | cons call calls ih =>
    obtain ⟨hcall, hcalls⟩ := List.forall_mem_cons.mp hfinite
    rw [List.flatMap_cons, List.length_append, ih hcalls, RecordCall.length_durationsAt hcall,
      List.countP_cons, Nat.add_comm]
    simp only [decide_eq_true_eq]

theorem mem_durations_iff {values : List Text} :
    values ∈ (recordAll { service } calls).durations.keys ↔
      (calls.countP fun call ↦ decide (call.timed? = some values)) ≠ 0 := by
  rw [mem_durations_recordAll, ← Nat.pos_iff_ne_zero, List.countP_pos_iff]
  simp [Table.keys]

/-- **The durations balance with the requests** of all statuses. -/
theorem balances (hfinite : ∀ call ∈ calls, call.IsFinite) :
    (recordAll { service } calls).Balances method endpoint
      (∑ᶠ status, tally service calls .requests
        (RecordCall.requestLabels method endpoint status)) := by
  have htidy := (isTidy_empty service).recordAll calls
  have hsum : ∑ᶠ status, tally service calls .requests
      (RecordCall.requestLabels method endpoint status) =
        calls.countP fun call ↦ decide (call.timed? = some [method, endpoint]) := by
    simp only [tally, RecordCall.labelled?_requests_iff, finsum_countP,
      RecordCall.isSome_statusAt?]
  have hall : Duration.countWithin ((recordAll { service } calls).durationsOf [method, endpoint])
      (.infinite false) = calls.countP fun call ↦
        decide (call.timed? = some [method, endpoint]) := by
    rw [Duration.countWithin_infinite, length_durationsOf hfinite]
    intro x hx
    rw [durationsOf_recordAll] at hx
    obtain ⟨call, hcall, hx⟩ := List.mem_flatMap.mp hx
    exact RecordCall.isFinite_of_mem_durationsAt (hfinite call hcall) hx
  have hlast : Binary64.infinite false ∈ Duration.bounds :=
    List.mem_append_right _ List.mem_cons_self
  rw [hsum]
  constructor
  · intro bound hbound
    simp only [htidy.bucket_mem_samples_iff hbound, mem_durations_iff, exists_and_left,
      exists_eq, and_true]
  · intro bound hbound larger hlarger hle x y hx hy
    obtain ⟨-, rfl⟩ := (htidy.bucket_mem_samples_iff hbound).mp hx
    obtain ⟨-, rfl⟩ := (htidy.bucket_mem_samples_iff hlarger).mp hy
    exact Binary64.ofNat_le_ofNat (Duration.countWithin_mono _ hle)
  · intro x
    rw [htidy.bucket_mem_samples_iff hlast, mem_durations_iff, hall]
  · intro x
    rw [htidy.durationCount_mem_samples_iff, mem_durations_iff, hall]

end Collector

end SessionGate
