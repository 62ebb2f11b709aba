import SessionGate.Binary64.Decimal
import SessionGate.Proofs.Digits
import SessionGate.Proofs.Rounding

/-!
# Digits that read back as the double

`Binary64.shortest` searches one grid of decimal numbers after the other for a point that rounds to
the double. What it finds rounds to the double because that is what it tests; the matter is that it
finds something. `gridHit?_isSome` says when a grid is fine enough: if no end of the interval is
within half a step of the value. Seventeen digits are enough for that, since a step is then less
than a unit of the mantissa, and less than half of one where the interval is narrow.

That the digits are the fewest is no matter here: any number in the interval reads back.
-/

namespace SessionGate

variable {low value high den : ℕ} {closed : Bool} {q : ℤ}

/-! ## Grids -/

/-- A number is inside an interval, with or without its ends. -/
def Inside (closed : Bool) (low high x : ℚ) : Prop :=
  low ≤ x ∧ x ≤ high ∧ (closed = false → low < x ∧ x < high)

/-- An interval is measured in other units. -/
theorem Inside.div {low high x unit : ℚ} (h : Inside closed low high x) (hunit : 0 < unit) :
    Inside closed (low / unit) (high / unit) (x / unit) := by
  obtain ⟨hlow, hhigh, hopen⟩ := h
  refine ⟨by gcongr, by gcongr, fun hclosed ↦ ?_⟩
  obtain ⟨hlow', hhigh'⟩ := hopen hclosed
  exact ⟨by gcongr, by gcongr⟩

/-- The test of `gridHit?`. -/
def isInside (low high den : ℕ) (closed : Bool) (q : ℤ) (c : ℕ) : Bool :=
  let step := (gridScale low den q).2
  if closed then (gridScale low den q).1 ≤ c * step && c * step ≤ (gridScale high den q).1
  else (gridScale low den q).1 < c * step && c * step < (gridScale high den q).1

/-- The point of a grid that is nearest to a value. -/
def nearestPoint (value den : ℕ) (q : ℤ) : ℕ :=
  Binary64.roundDiv (gridScale value den q).1 (gridScale value den q).2

/-- The nearest point is tested first. -/
theorem gridHit?_eq (low value high den : ℕ) (closed : Bool) (q : ℤ) :
    ∃ other, gridHit? low value high den closed q =
      if isInside low high den closed q (nearestPoint value den q) then
        some (nearestPoint value den q)
      else if isInside low high den closed q other then some other
      else none :=
  ⟨_, rfl⟩

theorem gridScale_pos (hden : 0 < den) : 0 < (gridScale low den q).2 :=
  Binary64.scaleBy_pos (by decide) hden

theorem gridScale_div (num den : ℕ) (q : ℤ) :
    ((gridScale num den q).1 : ℚ) / (gridScale num den q).2 = num / den / 10 ^ q :=
  Binary64.scaleBy_div num den q

/-- Fractions with one denominator are scaled to fractions with one denominator. -/
theorem gridScale_snd (num other den : ℕ) (q : ℤ) :
    (gridScale num den q).2 = (gridScale other den q).2 := by
  rw [gridScale, gridScale]
  split <;> rfl

theorem isInside_iff (hden : 0 < den) (c : ℕ) :
    isInside low high den closed q c = true ↔
      Inside closed (low / den) (high / den) (c * 10 ^ q) := by
  have hunit : (0 : ℚ) < 10 ^ q := by positivity
  have hstep : (0 : ℚ) < (gridScale low den q).2 := by exact_mod_cast gridScale_pos hden
  have hlow := gridScale_div low den q
  have hhigh := gridScale_div high den q
  rw [gridScale_snd high low] at hhigh
  rw [isInside, Inside, ← div_le_iff₀ hunit, ← le_div_iff₀ hunit, ← div_lt_iff₀ hunit,
    ← lt_div_iff₀ hunit, ← hlow, ← hhigh, div_le_iff₀ hstep, le_div_iff₀ hstep, div_lt_iff₀ hstep,
    lt_div_iff₀ hstep]
  norm_cast
  cases closed with
  | true => simp
  | false =>
    simp only [Bool.false_eq_true, if_false, Bool.and_eq_true, decide_eq_true_eq, forall_const]
    exact ⟨fun h ↦ ⟨h.1.le, h.2.le, h⟩, fun h ↦ h.2.2⟩

/-- A point of a grid is only found inside the interval. -/
theorem inside_of_gridHit? (hden : 0 < den) {c : ℕ}
    (h : gridHit? low value high den closed q = some c) :
    Inside closed (low / den) (high / den) (c * 10 ^ q) := by
  rw [← isInside_iff hden]
  obtain ⟨other, heq⟩ := gridHit?_eq low value high den closed q
  rw [heq] at h
  split at h
  · next hinside =>
    cases h
    exact hinside
  · split at h
    · next hinside =>
      cases h
      exact hinside
    · cases h

/-- The nearest point is at most half a step away. -/
theorem abs_nearestPoint_sub_le (hden : 0 < den) :
    |(nearestPoint value den q : ℚ) * 10 ^ q - value / den| ≤ 10 ^ q / 2 := by
  have hunit : (0 : ℚ) < 10 ^ q := by positivity
  have hdistance := Binary64.abs_roundDiv_sub_le (n := (gridScale value den q).1)
    (@gridScale_pos value den q hden)
  rw [gridScale_div] at hdistance
  calc |(nearestPoint value den q : ℚ) * 10 ^ q - value / den|
      = |(nearestPoint value den q : ℚ) - value / den / 10 ^ q| * 10 ^ q := by
        rw [← abs_of_pos hunit, ← abs_mul, abs_of_pos hunit, sub_mul, div_mul_cancel₀ _ hunit.ne']
    _ ≤ 1 / 2 * 10 ^ q := mul_le_mul_of_nonneg_right hdistance hunit.le
    _ = 10 ^ q / 2 := by ring

/-- A grid is fine enough if the ends are more than half a step away from the value. -/
theorem gridHit?_isSome (hden : 0 < den) (hlow : (low : ℚ) / den + 10 ^ q / 2 < value / den)
    (hhigh : (value : ℚ) / den + 10 ^ q / 2 < high / den) :
    ∃ c, gridHit? low value high den closed q = some c := by
  have hdistance := @abs_nearestPoint_sub_le value den q hden
  rw [abs_le] at hdistance
  have hlow' : (low : ℚ) / den < nearestPoint value den q * 10 ^ q := by linarith
  have hhigh' : (nearestPoint value den q : ℚ) * 10 ^ q < high / den := by linarith
  have hinside : isInside low high den closed q (nearestPoint value den q) = true :=
    (isInside_iff hden _).mpr ⟨hlow'.le, hhigh'.le, fun _ ↦ ⟨hlow', hhigh'⟩⟩
  obtain ⟨other, heq⟩ := gridHit?_eq low value high den closed q
  exact ⟨_, heq.trans (if_pos hinside)⟩

/-! ## The search -/

/-- The search ends on the first grid on which there is a hit, if it gets that far. -/
theorem searchGrids_hit {p : ℤ} {fuel k : ℕ}
    (h : ∃ j c, k ≤ j ∧ j < k + fuel ∧ gridHit? low value high den closed (p - j) = some c) :
    gridHit? low value high den closed (searchGrids low value high den closed p fuel k).2 =
      some (searchGrids low value high den closed p fuel k).1 := by
  induction fuel generalizing k with
  | zero =>
    obtain ⟨j, -, hle, hlt, -⟩ := h
    omega
  | succ fuel ih =>
    rw [searchGrids]
    split
    · next hhit => exact hhit
    · next hmiss =>
      obtain ⟨j, c, hle, hlt, hhit⟩ := h
      have hne : j ≠ k := by
        rintro rfl
        cases hhit.symm.trans hmiss
      exact ih ⟨j, c, by omega, by omega, hhit⟩

/-- The digits of a number begin at its decimal point. -/
theorem pow_decimalExponent_le (hvalue : value ≠ 0) (hden : 0 < den) :
    (10 : ℚ) ^ (decimalExponent value den - 1) ≤ value / den := by
  have hpos : (0 : ℚ) < den := by exact_mod_cast hden
  rw [decimalExponent]
  generalize hk : (Nat.toDigits 10 den).length = k
  have hlt : den < 10 ^ k := hk ▸ Text.lt_pow_length_toDigits den
  have hone : 1 ≤ value * 10 ^ k / den := by
    rw [Nat.le_div_iff_mul_le hden, one_mul]
    calc den ≤ 1 * 10 ^ k := by omega
      _ ≤ value * 10 ^ k := Nat.mul_le_mul_right _ (Nat.one_le_iff_ne_zero.mpr hvalue)
  have hmul : value * 10 ^ k / den * den ≤ value * 10 ^ k := Nat.div_mul_le_self _ _
  rw [Nat.pow_eq]
  generalize value * 10 ^ k / den = whole at hone hmul
  have hlength : 10 ^ ((Nat.toDigits 10 whole).length - 1) ≤ whole :=
    Text.pow_length_toDigits_le (by omega)
  have hdigits : 0 < (Nat.toDigits 10 whole).length := Nat.length_toDigits_pos
  generalize (Nat.toDigits 10 whole).length = n at hlength hdigits
  obtain ⟨n, rfl⟩ : ∃ i, n = i + 1 := ⟨n - 1, by omega⟩
  rw [Nat.add_sub_cancel] at hlength
  have hexponent : ((n + 1 : ℕ) : ℤ) - k - 1 = (n : ℤ) - k := by omega
  rw [hexponent, zpow_sub₀ (by norm_num), zpow_natCast, zpow_natCast,
    div_le_div_iff₀ (by positivity) hpos]
  exact_mod_cast (Nat.mul_le_mul_right den hlength).trans hmul

/-! ## Seventeen digits -/

namespace Binary64

variable {m : ℕ} {e : ℤ}

/-- The lower end of the interval, a half or a quarter below the mantissa. -/
theorem roundingInterval_low (hm : m ≠ 0) :
    ((roundingInterval m e).1 : ℚ) =
      if m = 2 ^ 52 ∧ minExponent < e then 4 * (m : ℚ) - 1 else 4 * m - 2 := by
  rw [roundingInterval, Nat.pow_eq]
  simp only
  split
  · rw [Nat.cast_sub (by omega)]
    push_cast
    rfl
  · rw [Nat.cast_sub (by omega)]
    push_cast
    rfl

/-- What is inside the interval rounds to the double. -/
theorem rounds_of_inside {x : ℚ} (hm : m ≠ 0)
    (h : Inside (m % 2 == 0) ((roundingInterval m e).1 * 2 ^ (e - 2))
      ((roundingInterval m e).2.2 * 2 ^ (e - 2)) x) : Rounds m e x := by
  have hunit : (0 : ℚ) < 2 ^ e := by positivity
  have hquarter : (2 : ℚ) ^ (e - 2) = 2 ^ e / 4 := by
    rw [zpow_sub₀ two_ne_zero]
    norm_num
  have hhighEnd : ((roundingInterval m e).2.2 : ℚ) = 4 * m + 2 := by
    rw [roundingInterval]
    push_cast
    rfl
  have hlowEnd := @roundingInterval_low m e hm
  have hhalf : 4 * (m : ℚ) - 2 ≤ (roundingInterval m e).1 := by
    rw [hlowEnd]
    split_ifs <;> linarith
  have hscale (y : ℚ) : y * 2 ^ (e - 2) / 2 ^ e = y / 4 := by
    rw [hquarter]
    field_simp
  obtain ⟨hlow, hhigh, hopen⟩ := h.div hunit
  rw [hscale] at hlow hhigh hopen
  rw [hscale, hhighEnd] at hopen
  rw [hhighEnd] at hhigh
  refine ⟨by linarith, fun hpower hleast ↦ ?_, by linarith, fun hodd ↦ ?_⟩
  · rw [hlowEnd, if_pos ⟨hpower, hleast⟩] at hlow
    linarith
  · obtain ⟨hlow', hhigh'⟩ := hopen (by rw [hodd]; rfl)
    exact ⟨by linarith, by linarith⟩

/-- Shifts put the exponent into numerators and a denominator. -/
theorem shift_div (n : ℕ) (e : ℤ) :
    ((n <<< (if 0 ≤ e then e.toNat else 0) : ℕ) : ℚ) /
      ((if 0 ≤ e then 1 else 1 <<< (-e).toNat : ℕ) : ℚ) = n * 2 ^ e := by
  split
  · next he =>
    obtain ⟨k, rfl⟩ := Int.eq_ofNat_of_zero_le he
    rw [Int.toNat_natCast, Nat.shiftLeft_eq, zpow_natCast]
    push_cast
    rw [div_one]
  · next he =>
    obtain ⟨k, hk⟩ := Int.eq_ofNat_of_zero_le (by omega : 0 ≤ -e)
    obtain rfl : e = -k := by omega
    rw [neg_neg, Int.toNat_natCast, Nat.shiftLeft_zero, Nat.one_shiftLeft, zpow_neg, zpow_natCast]
    push_cast
    rw [div_eq_mul_inv]

/-- Half a step of the grid of seventeen digits is less than the distance to either end. -/
theorem half_step_lt {p : ℤ} (hbits : m < 2 ^ 53)
    (hp : (10 : ℚ) ^ (p - 1) ≤ (4 * m : ℕ) * 2 ^ (e - 2)) :
    (10 : ℚ) ^ (p - 17) / 2 < 2 * 2 ^ (e - 2) ∧
      (m = 2 ^ 52 → (10 : ℚ) ^ (p - 17) / 2 < 2 ^ (e - 2)) := by
  have hunit : (0 : ℚ) < 2 ^ (e - 2) := by positivity
  have hstep : (10 : ℚ) ^ (p - 17) = 10 ^ (p - 1) / 10 ^ 16 := by
    rw [show p - 17 = p - 1 - 16 by omega, zpow_sub₀ (by norm_num)]
    rfl
  have hbits' : (m : ℚ) < 2 ^ 53 := by exact_mod_cast hbits
  have hm : (m : ℚ) * 2 ^ (e - 2) < 2 ^ 53 * 2 ^ (e - 2) := by gcongr
  push_cast at hp
  rw [hstep]
  constructor
  · linarith
  · rintro rfl
    push_cast at hp
    linarith

/-- **The digits found round to the double.** -/
theorem rounds_shortest (hm : m ≠ 0) (hbits : m < 2 ^ 53) :
    Rounds m e ((shortest m e).1 * 10 ^ (shortest m e).2) := by
  have hshift (n : ℕ) := shift_div n (e - 2)
  generalize hup : (if 0 ≤ e - 2 then (e - 2).toNat else 0) = up at hshift
  generalize hden : (if 0 ≤ e - 2 then 1 else 1 <<< (-(e - 2)).toNat) = den at hshift
  have hpos : 0 < den := by
    rw [← hden]
    split
    · exact one_pos
    · rw [Nat.one_shiftLeft]
      positivity
  have hshortest : shortest m e = searchGrids ((roundingInterval m e).1 <<< up)
      ((4 * m) <<< up) ((roundingInterval m e).2.2 <<< up) den (m % 2 == 0)
      (decimalExponent ((4 * m) <<< up) den) 17 1 := by
    rw [← hup, ← hden]
    rfl
  have hvalue : (4 * m) <<< up ≠ 0 := by
    rw [Nat.shiftLeft_eq]
    positivity
  have hexponent := pow_decimalExponent_le hvalue hpos
  rw [hshift] at hexponent
  obtain ⟨hhalf, hnarrow⟩ := half_step_lt hbits hexponent
  -- the last grid is fine enough, whatever the grids before it were
  have hlast : ∃ c, gridHit? ((roundingInterval m e).1 <<< up) ((4 * m) <<< up)
      ((roundingInterval m e).2.2 <<< up) den (m % 2 == 0)
      (decimalExponent ((4 * m) <<< up) den - (17 : ℕ)) = some c := by
    refine gridHit?_isSome hpos ?_ ?_
    · rw [hshift, hshift, roundingInterval_low hm]
      push_cast
      split
      · next h => linarith [hnarrow h.1]
      · linarith
    · have hhigh : (roundingInterval m e).2.2 = 4 * m + 2 := rfl
      rw [hshift, hshift, hhigh]
      push_cast
      linarith
  obtain ⟨c, hc⟩ := hlast
  have hhit := inside_of_gridHit? hpos
    (@searchGrids_hit _ _ _ _ _ _ 17 1 ⟨17, c, by decide, by decide, hc⟩)
  rw [hshift, hshift, ← hshortest] at hhit
  exact rounds_of_inside hm hhit

end Binary64

end SessionGate
