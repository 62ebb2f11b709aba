import SessionGate.Checked

/-!
# Records that are checked

A record is built from its fields, one `<*>` after the other. `Checked.faults` is what is wrong with
it: the faults of all its fields in their order. The record is valid exactly if every field is, and
every fault names the field it was found in, so the fields can be looked at one by one.
-/

namespace SessionGate.Checked

variable {α β : Type}

/-- What is wrong with a value, which is nothing if it has passed its checks. -/
def faults : Checked α → List FieldFault
  | valid _ => []
  | invalid faults => faults

@[simp] theorem faults_map (f : α → β) (x : Checked α) : (f <$> x).faults = x.faults := by
  cases x <;> rfl

@[simp] theorem faults_seq (f : Checked (α → β)) (x : Checked α) :
    (f <*> x).faults = f.faults ++ x.faults := by
  cases f <;> cases x <;> simp [faults, Seq.seq, both]

theorem seq_eq_valid_iff {f : Checked (α → β)} {x : Checked α} {b : β} :
    f <*> x = valid b ↔ ∃ g a, f = valid g ∧ x = valid a ∧ g a = b := by
  cases f <;> cases x <;> simp [Seq.seq, both]

theorem map_eq_valid_iff {f : α → β} {x : Checked α} {b : β} :
    f <$> x = valid b ↔ ∃ a, x = valid a ∧ f a = b := by
  cases x <;> simp [Functor.map, map]

theorem under_eq_valid_iff {step : PathStep} {x : Checked α} {a : α} :
    x.under step = valid a ↔ x = valid a := by
  cases x <;> simp [under]

/-- A text that has passed a check of its characters has no surrogates. -/
theorem unicode_eq_valid_iff {check : String → Checked α} {t : Text} {a : α} :
    unicode check t = valid a ↔ ∃ s, t = .plain s ∧ check s = valid a := by
  cases t <;> simp [unicode, fault]

/-- Every fault of a part is found in that part. -/
theorem head?_path_of_under {step : PathStep} {x : Checked α} {f : FieldFault}
    (h : f ∈ (x.under step).faults) : f.path.head? = some step := by
  cases x with
  | valid a => cases h
  | invalid faults =>
    obtain ⟨g, -, rfl⟩ := List.mem_map.mp h
    rfl

variable {ms : Members} {name : String} {read : Json → Checked α} {f : FieldFault}

/-- A field that is there is read. -/
theorem required_of_get? {v : Json} (h : ms.get? name = some v) :
    required ms name read = (read v).under (.member name) := by
  rw [required, h]

theorem optional_of_get? {default : α} {v : Json} (h : ms.get? name = some v) :
    optional ms name default read = (read v).under (.member name) := by
  rw [optional, h]

theorem required_eq_valid_iff {a : α} :
    required ms name read = valid a ↔ ∃ v, ms.get? name = some v ∧ read v = valid a := by
  rw [required]
  cases ms.get? name with
  | none => simp
  | some v => simp [under_eq_valid_iff]

theorem optional_eq_valid_iff {default a : α} :
    optional ms name default read = valid a ↔
      ms.get? name = none ∧ default = a ∨ ∃ v, ms.get? name = some v ∧ read v = valid a := by
  rw [optional]
  cases ms.get? name with
  | none => simp
  | some v => simp [under_eq_valid_iff]

theorem head?_path_of_required (h : f ∈ (required ms name read).faults) :
    f.path.head? = some (.member name) := by
  rw [required] at h
  cases hget : ms.get? name with
  | none =>
    rw [hget] at h
    rw [List.mem_singleton.mp h]
    rfl
  | some v =>
    rw [hget] at h
    exact head?_path_of_under h

theorem head?_path_of_optional {default : α} (h : f ∈ (optional ms name default read).faults) :
    f.path.head? = some (.member name) := by
  rw [optional] at h
  cases hget : ms.get? name with
  | none =>
    rw [hget] at h
    cases h
  | some v =>
    rw [hget] at h
    exact head?_path_of_under h

end SessionGate.Checked
