/-!
# Steps that may fail

Most decisions of the library are chains of steps in `Except`. A chain that succeeds is read
backwards with `bind_eq_ok_iff`: every step of it has succeeded, with the value the next one got.
One that fails has a first step that has failed, which is `failsWith_bind_iff`.
-/

namespace SessionGate

variable {ε ε' α β : Type}

theorem bind_eq_ok_iff {x : Except ε α} {f : α → Except ε β} {b : β} :
    x >>= f = .ok b ↔ ∃ a, x = .ok a ∧ f a = .ok b := by
  cases x with
  | error e => exact ⟨fun h ↦ (nomatch h), fun ⟨_, h, _⟩ ↦ (nomatch h)⟩
  | ok a => exact ⟨fun h ↦ ⟨a, rfl, h⟩, fun ⟨_, h, hf⟩ ↦ by cases h; exact hf⟩

/-- A step without a value is followed by the rest if it succeeds. -/
theorem unit_bind_eq_ok_iff {x : Except ε Unit} {y : Except ε β} {b : β} :
    (x >>= fun _ ↦ y) = .ok b ↔ x = .ok () ∧ y = .ok b :=
  bind_eq_ok_iff.trans ⟨fun ⟨_, h⟩ ↦ h, fun h ↦ ⟨(), h⟩⟩

/-- A chain that fails has one first step that does. -/
theorem bind_eq_error_iff {x : Except ε α} {f : α → Except ε β} {e : ε} :
    x >>= f = .error e ↔ x = .error e ∨ ∃ a, x = .ok a ∧ f a = .error e := by
  cases x with
  | error e' =>
    exact ⟨fun h ↦ .inl (by cases h; rfl), fun h ↦ h.elim (fun h ↦ by cases h; rfl)
      fun ⟨_, h, _⟩ ↦ nomatch h⟩
  | ok a =>
    exact ⟨fun h ↦ .inr ⟨a, rfl, h⟩, fun h ↦ h.elim (fun h ↦ nomatch h)
      fun ⟨_, h, hf⟩ ↦ by cases h; exact hf⟩

/-- A step fails, and its failure has a property. -/
def FailsWith (P : ε → Prop) (x : Except ε α) : Prop :=
  ∃ e, x = .error e ∧ P e

section FailsWith

variable {P : ε → Prop} {x : Except ε α}

theorem not_failsWith_ok (a : α) : ¬FailsWith P (.ok a : Except ε α) :=
  fun ⟨_, h, _⟩ ↦ (nomatch h)

@[simp] theorem failsWith_error_iff {e : ε} : FailsWith P (.error e : Except ε α) ↔ P e :=
  ⟨fun ⟨_, h, hP⟩ ↦ by cases h; exact hP, fun hP ↦ ⟨e, rfl, hP⟩⟩

theorem failsWith_bind_iff {f : α → Except ε β} :
    FailsWith P (x >>= f) ↔ FailsWith P x ∨ ∃ a, x = .ok a ∧ FailsWith P (f a) := by
  cases x with
  | error e =>
    constructor
    · rintro ⟨e', h, he'⟩
      cases h
      exact .inl ⟨e, rfl, he'⟩
    · rintro (⟨e', h, he'⟩ | ⟨_, h, -⟩)
      · cases h
        exact ⟨e, rfl, he'⟩
      · cases h
  | ok a =>
    constructor
    · intro h
      exact .inr ⟨a, rfl, h⟩
    · rintro (h | ⟨_, h, hf⟩)
      · exact absurd h (not_failsWith_ok a)
      · cases h
        exact hf

/-- What is made of a value in the end does not fail. -/
theorem failsWith_bind_pure_iff {f : α → β} :
    FailsWith P (x >>= fun a ↦ pure (f a)) ↔ FailsWith P x := by
  rw [failsWith_bind_iff]
  exact or_iff_left fun ⟨a, _, h⟩ ↦ not_failsWith_ok (f a) h

theorem failsWith_unit_bind_iff {x : Except ε Unit} {y : Except ε β} :
    FailsWith P (x >>= fun _ ↦ y) ↔ FailsWith P x ∨ x = .ok () ∧ FailsWith P y :=
  failsWith_bind_iff.trans (or_congr_right ⟨fun ⟨_, h⟩ ↦ h, fun h ↦ ⟨(), h⟩⟩)

end FailsWith

@[simp] theorem mapError_ok (f : ε → ε') (a : α) :
    (Except.ok a : Except ε α).mapError f = .ok a := rfl

@[simp] theorem mapError_error (f : ε → ε') (e : ε) :
    (Except.error e : Except ε α).mapError f = .error (f e) := rfl

theorem mapError_eq_ok_iff {x : Except ε α} {f : ε → ε'} {a : α} :
    x.mapError f = .ok a ↔ x = .ok a := by
  cases x with
  | error e => exact ⟨fun h ↦ (nomatch h), fun h ↦ (nomatch h)⟩
  | ok b => exact ⟨fun h ↦ by cases h; rfl, fun h ↦ by cases h; rfl⟩

theorem toOption_eq_some_iff {x : Except ε α} {a : α} : x.toOption = some a ↔ x = .ok a := by
  cases x with
  | error e => exact iff_of_false (fun h ↦ by cases h) (fun h ↦ by cases h)
  | ok b => simp [Except.toOption]

end SessionGate
