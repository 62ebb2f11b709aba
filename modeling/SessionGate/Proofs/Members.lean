import SessionGate.Json

/-!
# What the operations on objects do to a member

An object is looked at through `Members.get?` alone, so every operation that builds one gets an
equation that says what a member is afterwards. Objects that were built by writing one member after
the other hold no name twice, and for those the order of writing does not matter to a look-up:
`Members.get?_override`.
-/

namespace SessionGate.Members

variable {ms : Members} {name : Text} {value : Json}

@[simp] theorem get?_nil (name : Text) : get? [] name = none := rfl

theorem get?_cons (n : Text) (v : Json) (rest : Members) (name : Text) :
    get? ((n, v) :: rest) name = if name = n then some v else get? rest name := by
  rw [get?, List.lookup_cons]
  by_cases h : name = n
  · rw [if_pos h, beq_iff_eq.mpr h]
  · rw [if_neg h, beq_eq_false_iff_ne.mpr h, get?]

theorem get?_eq_none_iff : ms.get? name = none ↔ name ∉ ms.names := by
  induction ms with
  | nil => simp [names]
  | cons m rest ih =>
    obtain ⟨n, v⟩ := m
    have hnames : names ((n, v) :: rest) = n :: names rest := rfl
    rw [get?_cons, hnames, List.mem_cons, not_or]
    by_cases h : name = n
    · simp [h]
    · rw [if_neg h, ih]
      simp [h]

theorem mem_of_get? (h : ms.get? name = some value) : (name, value) ∈ ms := by
  obtain ⟨front, back, rfl, -⟩ := List.lookup_eq_some_iff.mp h
  exact List.mem_append_right _ List.mem_cons_self

theorem get?_insert (ms : Members) (name other : Text) (value : Json) :
    (ms.insert name value).get? other = if other = name then some value else ms.get? other := by
  induction ms with
  | nil => rw [insert, get?_cons]
  | cons m rest ih =>
    obtain ⟨n, v⟩ := m
    by_cases hn : n = name
    · rw [insert, if_pos hn, get?_cons, get?_cons, hn]
      by_cases h : other = name
      · rw [if_pos h, if_pos h]
      · rw [if_neg h, if_neg h, if_neg h]
    · rw [insert, if_neg hn, get?_cons, ih, get?_cons]
      by_cases h : other = n
      · rw [if_pos h, if_pos h, if_neg (h ▸ hn)]
      · rw [if_neg h, if_neg h]

/-- A name that is not there comes last. -/
theorem insert_of_not_mem (h : name ∉ ms.names) : ms.insert name value = ms ++ [(name, value)] := by
  induction ms with
  | nil => rfl
  | cons m rest ih =>
    obtain ⟨n, v⟩ := m
    have hnames : names ((n, v) :: rest) = n :: names rest := rfl
    rw [hnames, List.mem_cons, not_or] at h
    rw [insert, if_neg (Ne.symm h.1), ih h.2, List.cons_append]

/-- A name that is there keeps its place. -/
theorem names_insert_of_mem (h : name ∈ ms.names) : (ms.insert name value).names = ms.names := by
  induction ms with
  | nil => cases h
  | cons m rest ih =>
    obtain ⟨n, v⟩ := m
    have hnames : names ((n, v) :: rest) = n :: names rest := rfl
    rw [hnames, List.mem_cons] at h
    rw [insert, hnames]
    by_cases hn : n = name
    · rw [if_pos hn]
      rfl
    · rw [if_neg hn]
      have hrest : name ∈ names rest := h.resolve_left (Ne.symm hn)
      exact congrArg (n :: ·) (ih hrest)

theorem nodup_names_insert (h : ms.names.Nodup) (name : Text) (value : Json) :
    (ms.insert name value).names.Nodup := by
  by_cases hmem : name ∈ ms.names
  · rw [names_insert_of_mem hmem]
    exact h
  · rw [insert_of_not_mem hmem, names, List.map_append, List.map_singleton]
    refine List.nodup_append.mpr ⟨h, List.pairwise_singleton _ _, ?_⟩
    intro n hn m hm heq
    have hlast : n = name := heq.trans (List.mem_singleton.mp hm)
    exact hmem (hlast ▸ hn)

/-- A member is there that was written, or that was there before. -/
theorem mem_insert {m : Text × Json} (h : m ∈ ms.insert name value) :
    m = (name, value) ∨ m ∈ ms := by
  induction ms with
  | nil => exact .inl (List.mem_singleton.mp h)
  | cons first rest ih =>
    obtain ⟨n, v⟩ := first
    rw [insert] at h
    split at h
    · next hn =>
      rcases List.mem_cons.mp h with rfl | h
      · exact .inl (by rw [hn])
      · exact .inr (List.mem_cons_of_mem _ h)
    · rcases List.mem_cons.mp h with rfl | h
      · exact .inr List.mem_cons_self
      · exact (ih h).imp_right (List.mem_cons_of_mem _)

/-! ## Leaving a member out -/

theorem get?_erase (ms : Members) (name other : Text) :
    (ms.erase name).get? other = if other = name then none else ms.get? other := by
  induction ms with
  | nil => simp [erase]
  | cons m rest ih =>
    obtain ⟨n, v⟩ := m
    rw [erase, List.filter_cons]
    by_cases hn : n = name
    · rw [if_neg (by simp [hn]), ← erase, ih, get?_cons, hn]
      by_cases h : other = name
      · rw [if_pos h, if_pos h]
      · rw [if_neg h, if_neg h, if_neg h]
    · rw [if_pos (by simp [hn]), ← erase, get?_cons, ih, get?_cons]
      by_cases h : other = n
      · rw [if_pos h, if_pos h, if_neg (h ▸ hn)]
      · rw [if_neg h, if_neg h]

theorem nodup_names_erase (h : ms.names.Nodup) (name : Text) : (ms.erase name).names.Nodup :=
  h.sublist (List.filter_sublist.map Prod.fst)

/-! ## Writing many members -/

theorem override_cons (ms rest : Members) (n : Text) (v : Json) :
    ms.override ((n, v) :: rest) = (ms.insert n v).override rest := rfl

theorem mem_override {newer : Members} {m : Text × Json} (h : m ∈ ms.override newer) :
    m ∈ ms ∨ m ∈ newer := by
  induction newer generalizing ms with
  | nil => exact .inl h
  | cons first rest ih =>
    rcases ih h with h | h
    · exact (mem_insert h).elim (fun heq ↦ .inr (by rw [heq]; exact List.mem_cons_self)) .inl
    · exact .inr (List.mem_cons_of_mem _ h)

/-- Members written over others are looked up first. -/
theorem get?_override {newer : Members} (h : newer.names.Nodup) (ms : Members) (name : Text) :
    (ms.override newer).get? name = (newer.get? name).or (ms.get? name) := by
  induction newer generalizing ms with
  | nil => rfl
  | cons m rest ih =>
    obtain ⟨n, v⟩ := m
    obtain ⟨hn, hrest⟩ := List.nodup_cons.mp h
    rw [override_cons, ih hrest, get?_insert, get?_cons]
    by_cases hname : name = n
    · -- it is not written again
      have hnone : get? rest name = none := get?_eq_none_iff.mpr (hname ▸ hn)
      rw [if_pos hname, if_pos hname, hnone]
      rfl
    · rw [if_neg hname, if_neg hname]

theorem override_eq_append {newer : Members} (h : (ms ++ newer).names.Nodup) :
    ms.override newer = ms ++ newer := by
  induction newer generalizing ms with
  | nil => exact (List.append_nil ms).symm
  | cons m rest ih =>
    obtain ⟨n, v⟩ := m
    have hsplit : ms ++ (n, v) :: rest = ms ++ [(n, v)] ++ rest := by simp
    have hn : n ∉ ms.names := by
      rw [names, List.map_append] at h
      intro hmem
      exact (List.nodup_append.mp h).2.2 n hmem n List.mem_cons_self rfl
    rw [override_cons, insert_of_not_mem hn, hsplit]
    exact ih (hsplit ▸ h)

/-- Members without a name twice are the object that they are written to. -/
theorem ofList_eq_self (h : ms.names.Nodup) : ofList ms = ms :=
  @override_eq_append [] ms h

end SessionGate.Members
