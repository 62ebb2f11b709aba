import SessionGate.Text.Parts

/-!
# Where texts are cut

Cutting a text at a mark is undone by putting the mark between the parts. Texts that are joined by a
mark come apart at it, and at the marks that they hold themselves (`splitOn_intercalate`); so they
come apart into what they were joined from if none of them holds one.
-/

namespace SessionGate.Text

variable {α : Type} [DecidableEq α] {mark : α}

/-! ## At every mark -/

/-- Marks cut a text as in the standard library. -/
theorem splitOn_eq (mark : α) (cs : List α) : splitOn mark cs = cs.splitOn mark := by
  induction cs with
  | nil => rfl
  | cons c cs ih =>
    rw [splitOn, ih, List.splitOn_cons_eq_if_modifyHead]
    by_cases h : c = mark
    · rw [if_pos h, if_pos (beq_iff_eq.mpr h)]
    · rw [if_neg h, if_neg (by simpa using h)]
      have hne : cs.splitOn mark ≠ [] := List.splitOn_ne_nil mark cs
      cases hparts : cs.splitOn mark with
      | nil => exact absurd hparts hne
      | cons part parts => rfl

theorem splitOn_of_not_mem {cs : List α} (h : mark ∉ cs) : splitOn mark cs = [cs] := by
  rw [splitOn_eq]
  exact List.splitOn_eq_singleton h

/-- Texts that are joined by a mark come apart at it, and at the marks inside them as well. -/
theorem splitOn_intercalate {texts : List (List α)} (h : texts ≠ []) :
    splitOn mark ([mark].intercalate texts) = texts.flatMap (splitOn mark) := by
  induction texts with
  | nil => exact absurd rfl h
  | cons text rest ih =>
    cases rest with
    | nil => simp
    | cons next rest =>
      have hjoined : [mark].intercalate (text :: next :: rest) =
          text ++ mark :: [mark].intercalate (next :: rest) := by
        rw [List.intercalate_cons_cons, List.append_assoc, List.singleton_append]
      rw [hjoined, splitOn_eq, List.splitOn_append_cons_self, ← splitOn_eq, ← splitOn_eq,
        ih (List.cons_ne_nil _ _), @List.flatMap_cons _ _ text (next :: rest)]

/-- No part holds a mark. -/
theorem not_mem_of_mem_splitOn {cs part : List α} (h : part ∈ splitOn mark cs) : mark ∉ part := by
  induction cs generalizing part with
  | nil =>
    rw [splitOn, List.mem_singleton] at h
    rw [h]
    exact List.not_mem_nil
  | cons c cs ih =>
    rw [splitOn] at h
    by_cases hc : c = mark
    · rw [if_pos hc, List.mem_cons] at h
      rcases h with rfl | h
      · exact List.not_mem_nil
      · exact ih h
    · rw [if_neg hc] at h
      cases hparts : splitOn mark cs with
      | nil =>
        rw [hparts, List.mem_singleton] at h
        rw [h, List.mem_singleton]
        exact Ne.symm hc
      | cons first parts =>
        rw [hparts] at h ih
        rcases List.mem_cons.mp h with rfl | h
        · rw [List.mem_cons, not_or]
          exact ⟨Ne.symm hc, ih List.mem_cons_self⟩
        · exact ih (List.mem_cons_of_mem _ h)

/-! ## At one mark -/

theorem cut?_eq_some_iff {cs before after : List α} :
    cut? mark cs = some (before, after) ↔ cs = before ++ mark :: after ∧ mark ∉ before := by
  induction cs generalizing before with
  | nil => simp [cut?]
  | cons c cs ih =>
    rw [cut?]
    by_cases hc : c = mark
    · rw [if_pos hc]
      cases before with
      | nil => simp [hc]
      | cons b before =>
        refine iff_of_false (fun h ↦ by cases h) ?_
        rintro ⟨hcs, hmark⟩
        cases hcs
        exact hmark (hc ▸ List.mem_cons_self)
    · rw [if_neg hc, Option.map_eq_some_iff]
      constructor
      · rintro ⟨⟨first, rest⟩, hcut, hparts⟩
        cases hparts
        obtain ⟨hcs, hmark⟩ := ih.mp hcut
        exact ⟨by rw [hcs, List.cons_append], List.not_mem_cons_of_ne_of_not_mem (Ne.symm hc) hmark⟩
      · rintro ⟨hcs, hmark⟩
        cases before with
        | nil => cases hcs; exact absurd rfl hc
        | cons b before =>
          cases hcs
          exact ⟨(before, after), ih.mpr ⟨rfl, List.not_mem_of_not_mem_cons hmark⟩, rfl⟩

/-- The last mark is the first one from behind. -/
theorem cutLast?_eq_some_iff {cs before after : List α} :
    cutLast? mark cs = some (before, after) ↔ cs = before ++ mark :: after ∧ mark ∉ after := by
  have hreverse : cs.reverse = after.reverse ++ mark :: before.reverse ↔
      cs = before ++ mark :: after := by
    rw [← List.reverse_inj]
    simp
  rw [cutLast?, Option.map_eq_some_iff]
  constructor
  · rintro ⟨⟨last, first⟩, hcut, hparts⟩
    cases hparts
    obtain ⟨hcs, hmark⟩ := cut?_eq_some_iff.mp hcut
    rw [List.reverse_reverse, List.reverse_reverse] at hreverse
    exact ⟨hreverse.mp hcs, by rwa [List.mem_reverse]⟩
  · rintro ⟨hcs, hmark⟩
    refine ⟨(after.reverse, before.reverse), cut?_eq_some_iff.mpr ⟨hreverse.mpr hcs, ?_⟩, ?_⟩
    · rwa [List.mem_reverse]
    · simp only [List.reverse_reverse]

end SessionGate.Text
