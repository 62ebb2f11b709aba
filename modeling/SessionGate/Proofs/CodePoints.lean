import SessionGate.Text

/-!
# Code points

A list of code points is the characters it begins with and the rest from the first surrogate on, and
a text is told by its code points: `Text.ofPoints_points` and `Text.points_ofPoints` go there and
back. A text of characters stays one when others of that kind are put beside it.
-/

namespace SessionGate

namespace CodePoint

@[simp] theorem ofChars_nil : ofChars [] = [] := rfl

@[simp] theorem ofChars_cons (c : Char) (cs : List Char) :
    ofChars (c :: cs) = char c :: ofChars cs := rfl

@[simp] theorem ofChars_append (cs ds : List Char) :
    ofChars (cs ++ ds) = ofChars cs ++ ofChars ds :=
  List.map_append

@[simp] theorem length_ofChars (cs : List Char) : (ofChars cs).length = cs.length :=
  List.length_map _

@[simp] theorem any_isLone_ofChars (cs : List Char) : (ofChars cs).any isLone = false := by
  rw [ofChars, List.any_map, List.any_eq_false]
  exact fun _ _ ↦ Bool.false_ne_true

@[simp] theorem filterMap_char?_ofChars (cs : List Char) : (ofChars cs).filterMap char? = cs := by
  rw [ofChars, List.filterMap_map]
  exact List.filterMap_some

/-- Without surrogates there are only characters. -/
theorem ofChars_filterMap {ps : List CodePoint} (h : ps.any isLone = false) :
    ofChars (ps.filterMap char?) = ps := by
  induction ps with
  | nil => rfl
  | cons p ps ih =>
    rw [List.any_cons, Bool.or_eq_false_iff] at h
    cases p with
    | char c => exact congrArg (char c :: ·) (ih h.2)
    | lone s => cases h.1

@[simp] theorem spanChars_ofChars (cs : List Char) : spanChars (ofChars cs) = (cs, []) := by
  induction cs with
  | nil => rfl
  | cons c cs ih => rw [ofChars_cons, spanChars, ih]

theorem ofNat_toNat (c : Char) : ofNat c.toNat = char c := by
  have hvalid : c.toNat < 0xD800 ∨ (0xDFFF < c.toNat ∧ c.toNat < 0x110000) := c.valid
  have hno : ¬(0xD800 ≤ c.toNat ∧ c.toNat < 0xE000) := by omega
  rw [ofNat, dif_neg hno, Char.ofNat_toNat]

theorem ofNat_value (s : Surrogate) : ofNat s.value = lone s :=
  dif_pos s.inRange

end CodePoint

namespace Text

open CodePoint

theorem points_plain (s : String) : points (.plain s) = ofChars s.toList := rfl

@[simp] theorem ofPoints_ofChars (cs : List Char) :
    ofPoints (ofChars cs) = .plain (String.ofList cs) := by
  rw [ofPoints, dif_neg (by simp), filterMap_char?_ofChars]

@[simp] theorem ofPoints_points (t : Text) : ofPoints t.points = t := by
  cases t with
  | plain s => rw [points_plain, ofPoints_ofChars, String.ofList_toList]
  | loose t => exact dif_pos t.isLoose

@[simp] theorem points_ofPoints (ps : List CodePoint) : (ofPoints ps).points = ps := by
  rw [ofPoints]
  split
  · rfl
  · next h => rw [points_plain, String.toList_ofList, ofChars_filterMap (Bool.eq_false_iff.mpr h)]

theorem points_injective {s t : Text} (h : s.points = t.points) : s = t := by
  rw [← ofPoints_points s, h, ofPoints_points]

theorem points_append (s t : Text) : (s ++ t).points = s.points ++ t.points := by
  have hpoints (u v : Text) : (ofPoints (u.points ++ v.points)).points = u.points ++ v.points :=
    points_ofPoints _
  cases s with
  | loose s => exact hpoints _ _
  | plain s =>
    cases t with
    | loose t => exact hpoints _ _
    | plain t =>
      have happend : (Text.plain s ++ .plain t : Text) = .plain (s ++ t) := rfl
      rw [happend, points_plain, String.toList_append, ofChars_append]
      rfl

theorem isPlain_iff {t : Text} : t.isPlain = true ↔ ∃ s, t = .plain s := by
  cases t <;> simp [isPlain, string?]

theorem isPlain_eq_points {t : Text} : t.isPlain = !t.points.any isLone := by
  cases t with
  | plain s => rw [points_plain, any_isLone_ofChars]; rfl
  | loose t => rw [points, t.isLoose]; rfl

@[simp] theorem isPlain_append (s t : Text) : (s ++ t).isPlain = (s.isPlain && t.isPlain) := by
  rw [isPlain_eq_points, points_append, List.any_append, Bool.not_or, ← isPlain_eq_points,
    ← isPlain_eq_points]

theorem string?_eq_some_iff {t : Text} {s : String} : t.string? = some s ↔ t = .plain s := by
  cases t <;> simp [string?]

end Text

end SessionGate
