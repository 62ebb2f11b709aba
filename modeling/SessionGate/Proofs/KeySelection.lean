import SessionGate.Verifier

/-!
# Which key a token is checked with

`Verifier.selectKey` runs through a document and finds an entry. `KeySet.Selects` says which entry
that is in terms of the list of entries alone: the first object with the identifier of the header,
or the only object there is where the header names none.

## Rotation

Issuers publish new keys and withdraw old ones. Somebody who looks for one identifier does not
notice what happens to the other entries: `KeySet.Rotated` relates lists that differ in such entries
only, and `Verifier.selectKey_rotated` says that the selection is the same, its failure included.
Without an identifier this is not so, since one more entry of any kind makes the choice ambiguous.
-/

namespace SessionGate

namespace KeySet

/-- Whether a value is an entry with a key identifier. -/
def isNamed (kid v : Json) : Bool :=
  v.obj?.any fun ms ↦ (Members.get ms "kid").same kid

/-- The entry that a key identifier selects. -/
def Selects (items : List Json) (kid : Json) (entry : Members) : Prop :=
  if kid.isNull = true then items.filterMap Json.obj? = [entry]
  else
    ∃ before after, items = before ++ .obj entry :: after ∧
      (Members.get entry "kid").same kid = true ∧ ∀ v ∈ before, isNamed kid v = false

/-- A rotation of keys, as it looks to somebody who wants one identifier: values that are no entry
with that identifier are put in, are taken out and change places with others. -/
inductive Rotated (kid : Json) : List Json → List Json → Prop where
  | refl (items : List Json) : Rotated kid items items
  | insert {items before after : List Json} (v : Json) (h : Rotated kid items (before ++ after))
      (hv : isNamed kid v = false) : Rotated kid items (before ++ v :: after)
  | delete {items before after : List Json} (v : Json)
      (h : Rotated kid items (before ++ v :: after)) (hv : isNamed kid v = false) :
      Rotated kid items (before ++ after)
  | swap {items before after : List Json} (v w : Json)
      (h : Rotated kid items (before ++ v :: w :: after))
      (hv : isNamed kid v = false ∨ isNamed kid w = false) :
      Rotated kid items (before ++ w :: v :: after)

/-- The entries with the identifier stay, and stay in their order. -/
theorem Rotated.filter_eq {kid : Json} {items rotated : List Json} (h : Rotated kid items rotated) :
    rotated.filter (isNamed kid) = items.filter (isNamed kid) := by
  induction h with
  | refl => rfl
  | insert v _ hv ih =>
    rw [← ih, List.filter_append, List.filter_append, List.filter_cons, hv]
    rfl
  | delete v _ hv ih =>
    rw [← ih, List.filter_append, List.filter_append, List.filter_cons, hv]
    rfl
  | swap v w _ hv ih =>
    rw [← ih, List.filter_append, List.filter_append]
    -- one of the two is filtered out, and then it does not matter where it stood
    rcases hv with hv | hw
    · simp only [List.filter_cons, hv]
      rfl
    · simp only [List.filter_cons, hw]
      rfl

/-! ## Entries -/

theorem entries_of_arr {keys : KeySet} {items : List Json}
    (h : keys.get? "keys" = some (.arr items)) :
    keys.entries = .ok (items.filterMap Json.obj?) := by
  rw [entries, h]
  rfl

theorem filterMap_obj?_map_str {α : Type} (f : α → Text) (xs : List α) :
    (xs.map fun x ↦ Json.str (f x)).filterMap Json.obj? = [] := by
  induction xs with
  | nil => rfl
  | cons x xs ih => rw [List.map_cons, List.filterMap_cons, ih]; rfl

/-- Only a list has entries. -/
theorem arr_of_entries {keys : KeySet} {entry : Members} {rest : List Members}
    (h : keys.entries = .ok rest) (hmem : entry ∈ rest) :
    ∃ items, keys.get? "keys" = some (.arr items) := by
  rw [entries] at h
  cases hkeys : keys.get? "keys" with
  | none => rw [hkeys] at h; cases h; cases hmem
  | some v =>
    rw [hkeys] at h
    -- names of members and letters of a text can be run through, but are no objects
    cases v with
    | arr items => exact ⟨items, rfl⟩
    | obj ms =>
      simp only [Json.elements?, Members.names, List.map_map, Function.comp_def,
        filterMap_obj?_map_str] at h
      cases h
      cases hmem
    | str s =>
      simp only [Json.elements?, filterMap_obj?_map_str] at h
      cases h
      cases hmem
    | _ => cases h

/-- The first object with an identifier stands before the others with it. -/
theorem find?_filterMap_obj?_eq_some_iff {items : List Json} {kid : Json} {entry : Members} :
    (items.filterMap Json.obj?).find? (fun ms ↦ (Members.get ms "kid").same kid) = some entry ↔
      ∃ before after, items = before ++ .obj entry :: after ∧
        (Members.get entry "kid").same kid = true ∧ ∀ v ∈ before, isNamed kid v = false := by
  rw [List.find?_filterMap, Option.bind_eq_some_iff]
  constructor
  · rintro ⟨v, hv, hentry⟩
    obtain ⟨hnamed, before, after, hitems, hbefore⟩ := List.find?_eq_some_iff_append.mp hv
    cases v <;> cases hentry
    refine ⟨before, after, hitems, by simpa [Json.obj?] using hnamed, fun u hu ↦ ?_⟩
    simpa [isNamed] using hbefore u hu
  · rintro ⟨before, after, hitems, hnamed, hbefore⟩
    refine ⟨.obj entry, List.find?_eq_some_iff_append.mpr ?_, rfl⟩
    refine ⟨by simpa [Json.obj?] using hnamed, before, after, hitems, fun u hu ↦ ?_⟩
    simpa [isNamed] using hbefore u hu

/-- What is found with an identifier depends on the entries with it. -/
theorem find?_filterMap_obj? (items : List Json) (kid : Json) :
    (items.filterMap Json.obj?).find? (fun ms ↦ (Members.get ms "kid").same kid) =
      (items.filter (isNamed kid)).head?.bind Json.obj? := by
  rw [List.find?_filterMap, List.head?_filter]
  rfl

theorem mem_of_selects {items : List Json} {kid : Json} {entry : Members}
    (h : Selects items kid entry) : .obj entry ∈ items := by
  rw [Selects] at h
  split at h
  · have hentry : entry ∈ items.filterMap Json.obj? := h ▸ List.mem_singleton_self entry
    obtain ⟨v, hv, hobj⟩ := List.mem_filterMap.mp hentry
    cases v <;> cases hobj
    exact hv
  · obtain ⟨before, after, hitems, -⟩ := h
    rw [hitems]
    exact List.mem_append_right before List.mem_cons_self

/-- No two entries are selected. -/
theorem Selects.unique {items : List Json} {kid : Json} {entry other : Members}
    (h : Selects items kid entry) (hother : Selects items kid other) : entry = other := by
  rw [Selects] at h hother
  by_cases hnull : kid.isNull = true
  · rw [if_pos hnull] at h hother
    rw [h] at hother
    exact List.singleton_inj.mp hother
  · rw [if_neg hnull, ← find?_filterMap_obj?_eq_some_iff] at h hother
    rw [h] at hother
    exact Option.some.inj hother

end KeySet

/-! ## Selection -/

namespace Verifier

/-- **The selected entry.** -/
theorem selectKey_eq_ok_iff {keys : KeySet} {kid : Json} {entry : Members} :
    selectKey keys kid = .ok entry ↔
      ∃ items, keys.get? "keys" = some (.arr items) ∧ KeySet.Selects items kid entry := by
  constructor
  · intro h
    rw [selectKey] at h
    cases hentries : keys.entries with
    | error fault => rw [hentries] at h; cases h
    | ok entries =>
      rw [hentries] at h
      simp only at h
      by_cases hnull : kid.isNull = true
      · rw [if_pos hnull] at h
        rcases entries with _ | ⟨only, _ | ⟨second, rest⟩⟩ <;> cases h
        obtain ⟨items, hitems⟩ := KeySet.arr_of_entries hentries List.mem_cons_self
        rw [KeySet.entries_of_arr hitems] at hentries
        exact ⟨items, hitems, by rw [KeySet.Selects, if_pos hnull]; exact Except.ok.inj hentries⟩
      · rw [if_neg hnull] at h
        cases hfind : entries.find? fun entry ↦ (Members.get entry "kid").same kid with
        | none => rw [hfind] at h; cases h
        | some found =>
          rw [hfind] at h
          cases h
          obtain ⟨items, hitems⟩ :=
            KeySet.arr_of_entries hentries (List.mem_of_find?_eq_some hfind)
          rw [KeySet.entries_of_arr hitems] at hentries
          cases hentries
          refine ⟨items, hitems, ?_⟩
          rw [KeySet.Selects, if_neg hnull]
          exact KeySet.find?_filterMap_obj?_eq_some_iff.mp hfind
  · rintro ⟨items, hitems, hselects⟩
    rw [selectKey, KeySet.entries_of_arr hitems]
    by_cases hnull : kid.isNull = true
    · rw [KeySet.Selects, if_pos hnull] at hselects
      simp only [if_pos hnull, hselects]
    · rw [KeySet.Selects, if_neg hnull] at hselects
      simp only [if_neg hnull, KeySet.find?_filterMap_obj?_eq_some_iff.mpr hselects]

/-- **Rotation goes unnoticed** by a token that names its key. -/
theorem selectKey_rotated {keys keys' : KeySet} {items items' : List Json} {kid : Json}
    (hkeys : keys.get? "keys" = some (.arr items)) (hkeys' : keys'.get? "keys" = some (.arr items'))
    (hkid : kid.isNull = false) (h : KeySet.Rotated kid items items') :
    selectKey keys' kid = selectKey keys kid := by
  rw [selectKey, selectKey, KeySet.entries_of_arr hkeys, KeySet.entries_of_arr hkeys']
  simp only [hkid, KeySet.find?_filterMap_obj?, h.filter_eq]
  rfl

end Verifier

end SessionGate
