import SessionGate.Proofs.JsonTexts

/-!
# Values that were read

What the reader makes of a text has a text again: its integers have no more digits than are written,
and it is not nested more deeply than is read. `Json.textFault?_of_ofBytes` says so of documents.
The new text need not be read as the same value, since surrogates that stand side by side in a
document may become one character on the way.

The induction is on the fuel, and goes through the three functions of the reader at once. What is
left over of a text says nothing about the value, so it is the same for any rest.
-/

namespace SessionGate

open Text

namespace Json

variable {cs rest : List Char} {ps more : List CodePoint} {v : Json} {room : Nat}

/-! ## Numbers -/

/-- Numbers within the limit of the reader are within the limit of the writer. -/
theorem digitsValue_lt_of_length {ds : List Char} (h : ∀ c ∈ ds, c.isDigit = true)
    (hlength : ds.length ≤ Text.digitLimit) : digitsValue ds < Nat.pow 10 Text.digitLimit :=
  lt_pow_of_lt_pow hlength (digitsValue_lt h)

/-- A sign changes nothing about the size of a number. -/
theorem natAbs_of_sign (negative : Bool) (n : Nat) :
    (if negative then -(n : Int) else n).natAbs = n := by
  cases negative with
  | false => rfl
  | true => exact Int.natAbs_neg n

theorem isDigit_of_spanDigits {ds : List Char} (h : spanDigits cs = (ds, rest)) :
    ∀ c ∈ ds, c.isDigit = true := by
  cases h
  exact fun c hc ↦ (List.mem_takeWhile_imp hc)

theorem isDigit_of_wholePart? {whole : List Char} (h : wholePart? cs = some (whole, rest)) :
    ∀ c ∈ whole, c.isDigit = true := by
  unfold wholePart? at h
  split at h
  · cases h
    simp
  · split at h
    · cases h
    · next hspan =>
      cases h
      exact isDigit_of_spanDigits hspan

/-- An integer that has a text is one of not too many digits. -/
theorem textFault?_int_iff {n : Int} :
    (Json.int n).textFault? room = none ↔ n.natAbs < Nat.pow 10 Text.digitLimit := by
  rw [textFault?, ite_eq_left_iff]
  simp only [reduceCtorEq, imp_false, not_not]

theorem textFault?_of_unsignedNumber {negative : Bool}
    (h : unsignedNumber negative cs = .ok (v, rest)) : v.textFault? room = none := by
  unfold unsignedNumber at h
  split at h
  · cases h
  · next whole after hwhole =>
    simp only at h
    split at h
    · split at h
      · cases h
      · next hlimit =>
        have hbound := digitsValue_lt_of_length (isDigit_of_wholePart? hwhole)
          (Nat.not_lt.mp hlimit)
        cases h
        rw [textFault?_int_iff, natAbs_of_sign]
        exact hbound
    · cases h
      rfl

theorem textFault?_of_word? (h : word? cs = some (v, rest)) : v.textFault? room = none := by
  obtain ⟨⟨word, w⟩, hword, hfound⟩ := List.exists_of_findSome?_eq_some h
  obtain ⟨after, -, heq⟩ := Option.map_eq_some_iff.mp hfound
  cases heq
  simp only [wordValues, List.mem_cons, Prod.mk.injEq, List.not_mem_nil, or_false] at hword
  rcases hword with ⟨-, rfl⟩ | ⟨-, rfl⟩ | ⟨-, rfl⟩ | ⟨-, rfl⟩ | ⟨-, rfl⟩ | ⟨-, rfl⟩ <;> rfl

theorem textFault?_of_number (h : number cs = .ok (v, rest)) : v.textFault? room = none := by
  unfold number at h
  split at h
  · exact textFault?_of_unsignedNumber h
  · exact textFault?_of_unsignedNumber h

theorem textFault?_of_scalar (h : scalar ps = .ok (v, more)) : v.textFault? room = none := by
  rw [scalar] at h
  simp only at h
  split at h
  · next w after hread =>
    cases h
    cases hword : word? (CodePoint.spanChars ps).1 with
    | some found =>
      rw [hword, Option.elim_some] at hread
      cases hread
      exact textFault?_of_word? hword
    | none =>
      rw [hword, Option.elim_none] at hread
      exact textFault?_of_number hread
  · cases h

/-! ## Objects -/

theorem memberFault?_eq_none_iff {ms : Members} :
    memberFault? room ms = none ↔ ∀ m ∈ ms, m.2.textFault? room = none := by
  induction ms with
  | nil => simp [memberFault?]
  | cons m ms ih => rw [memberFault?, Option.or_eq_none_iff, ih, List.forall_mem_cons]

/-- A name that is written twice keeps one of its values. -/
theorem memberFault?_ofList {ms : List (Text × Json)} (h : memberFault? room ms = none) :
    memberFault? room (Members.ofList ms) = none := by
  have hlist : Members.ofList ms = Members.override [] ms := rfl
  rw [hlist, memberFault?_eq_none_iff]
  rw [memberFault?_eq_none_iff] at h
  intro m hm
  rcases Members.mem_override hm with hnone | hm
  · cases hnone
  · exact h m hm

/-! ## Values -/

/-- What the three functions of the reader read with so much fuel. -/
structure ReadsWritable (fuel : Nat) : Prop where
  value : ∀ {room ps v more}, value fuel room ps = .ok (v, more) → v.textFault? room = none
  items : ∀ {room ps vs more}, items fuel room ps = .ok (vs, more) → itemFault? room vs = none
  members : ∀ {room ps ms more},
    members fuel room ps = .ok (ms, more) → memberFault? room ms = none

variable {fuel : Nat}

namespace ReadsWritable

theorem value_succ (h : ReadsWritable fuel)
    (hread : Json.value (fuel + 1) room ps = .ok (v, more)) : v.textFault? room = none := by
  unfold Json.value at hread
  split at hread
  · cases hread
  · -- a string
    obtain ⟨body, -, hread⟩ := bind_eq_ok_iff.mp hread
    cases hread
    rfl
  · cases hread
  · -- a list
    split at hread
    · cases hread
      rfl
    · obtain ⟨read, hitems, hread⟩ := bind_eq_ok_iff.mp hread
      cases hread
      exact h.items hitems
  · cases hread
  · -- an object
    split at hread
    · cases hread
      rfl
    · obtain ⟨read, hmembers, hread⟩ := bind_eq_ok_iff.mp hread
      cases hread
      exact memberFault?_ofList (h.members hmembers)
  · exact textFault?_of_scalar hread

theorem items_succ (h : ReadsWritable fuel) {vs : List Json}
    (hread : Json.items (fuel + 1) room ps = .ok (vs, more)) : itemFault? room vs = none := by
  unfold Json.items at hread
  obtain ⟨⟨first, after⟩, hvalue, hread⟩ := bind_eq_ok_iff.mp hread
  simp only at hread
  split at hread
  · cases hread
    exact Option.or_eq_none_iff.mpr ⟨h.value hvalue, rfl⟩
  · obtain ⟨others, hitems, hread⟩ := bind_eq_ok_iff.mp hread
    cases hread
    exact Option.or_eq_none_iff.mpr ⟨h.value hvalue, h.items hitems⟩
  · cases hread

theorem members_succ (h : ReadsWritable fuel) {ms : List (Text × Json)}
    (hread : Json.members (fuel + 1) room ps = .ok (ms, more)) : memberFault? room ms = none := by
  unfold Json.members at hread
  split at hread
  · obtain ⟨⟨name, afterName⟩, -, hread⟩ := bind_eq_ok_iff.mp hread
    simp only at hread
    split at hread
    · obtain ⟨⟨first, after⟩, hvalue, hread⟩ := bind_eq_ok_iff.mp hread
      simp only at hread
      split at hread
      · cases hread
        exact Option.or_eq_none_iff.mpr ⟨h.value hvalue, rfl⟩
      · obtain ⟨others, hmembers, hread⟩ := bind_eq_ok_iff.mp hread
        cases hread
        exact Option.or_eq_none_iff.mpr ⟨h.value hvalue, h.members hmembers⟩
      · cases hread
    · cases hread
  · cases hread

end ReadsWritable

theorem readsWritable (fuel : Nat) : ReadsWritable fuel := by
  induction fuel with
  | zero => exact ⟨fun h ↦ (nomatch h), fun h ↦ (nomatch h), fun h ↦ (nomatch h)⟩
  | succ fuel ih => exact ⟨ih.value_succ, ih.items_succ, ih.members_succ⟩

/-! ## Documents -/

/-- **What was read has a text.** -/
theorem textFault?_of_ofBytes {bs : Bytes} (h : ofBytes bs = .ok v) :
    v.textFault? depthLimit = none := by
  unfold ofBytes at h
  split at h
  · obtain ⟨⟨read, after⟩, hread, h⟩ := bind_eq_ok_iff.mp (mapError_eq_ok_iff.mp h)
    simp only at h
    split at h
    · cases h
      exact (readsWritable _).value hread
    · cases h
  · cases h

/-- A member of an object with a text has a text. -/
theorem textFault?_of_get? {ms : Members} {name : Text} (h : (obj ms).textFault? room = none)
    (hget : ms.get? name = some v) : ∃ room, v.textFault? room = none := by
  cases room with
  | zero => cases h
  | succ room => exact ⟨room, memberFault?_eq_none_iff.mp h _ (Members.mem_of_get? hget)⟩

end Json

end SessionGate
