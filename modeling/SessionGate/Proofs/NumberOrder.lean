import Mathlib.Order.WithBot
import SessionGate.Proofs.Rounding

/-!
# The order of doubles

`Binary64.le` is decided on mantissas and exponents. `Binary64.place?` puts a double on the line of
the rational numbers with an infinity at either end, and `le_iff` says that the order is the one of
that line. So it is transitive, and rounding keeps it: `ofNat_le_ofNat`.

## Why rounding keeps the order

Two numbers with the same exponent are rounded in the same units, and the larger one is not rounded
to less. If the exponents differ, there is a power of two that is at least what the smaller number
is rounded to and at most what the larger one is rounded to.
-/

namespace SessionGate.Binary64

/-- The rational number that a finite double is. -/
def rational (negative : Bool) (m : ℕ) (e : ℤ) : ℚ :=
  signed negative m * 2 ^ e

/-- The place on the extended number line. What is no number has none. -/
def place? : Binary64 → Option (WithBot (WithTop ℚ))
  | nan => none
  | infinite negative => some (if negative then ⊥ else ⊤)
  | finite negative m e => some ((rational negative m e : WithTop ℚ) : WithBot (WithTop ℚ))

/-! ## Comparison -/

theorem toRatio?_finite (negative : Bool) (m : ℕ) (e : ℤ) :
    ∃ (n : ℤ) (d : ℕ), (finite negative m e).toRatio? = some (n, d) ∧ 0 < d ∧
      (n : ℚ) / d = rational negative m e := by
  rw [toRatio?, rational]
  by_cases he : 0 ≤ e
  · obtain ⟨k, rfl⟩ := Int.eq_ofNat_of_zero_le he
    refine ⟨_, _, by rw [if_pos he], Nat.one_pos, ?_⟩
    cases negative <;> simp [signed, Nat.shiftLeft_eq]
  · obtain ⟨k, hk⟩ := Int.eq_ofNat_of_zero_le (by omega : 0 ≤ -e)
    obtain rfl : e = -k := by omega
    refine ⟨_, _, by rw [if_neg he], by simp [Nat.shiftLeft_eq], ?_⟩
    simp [Nat.shiftLeft_eq, div_eq_mul_inv]

theorem lt_finite_iff {s t : Bool} {m k : ℕ} {e f : ℤ} :
    (finite s m e).lt (finite t k f) = true ↔ rational s m e < rational t k f := by
  obtain ⟨a, b, hx, hb, hab⟩ := toRatio?_finite s m e
  obtain ⟨c, d, hy, hd, hcd⟩ := toRatio?_finite t k f
  have hb' : (0 : ℚ) < b := by exact_mod_cast hb
  have hd' : (0 : ℚ) < d := by exact_mod_cast hd
  rw [← hab, ← hcd, div_lt_div_iff₀ hb' hd']
  simp only [lt, hx, hy, decide_eq_true_eq]
  exact_mod_cast Iff.rfl

/-- One double is below another if both have a place and the places are in that order. -/
theorem lt_iff {x y : Binary64} :
    x.lt y = true ↔ ∃ a b, x.place? = some a ∧ y.place? = some b ∧ a < b := by
  have htop (a : ℚ) : ((a : WithTop ℚ) : WithBot (WithTop ℚ)) < ⊤ :=
    WithBot.coe_lt_coe.mpr (WithTop.coe_lt_top a)
  cases x with
  | nan => simp [lt, place?]
  | infinite s =>
    cases y with
    | nan => simp [lt, place?]
    | infinite t => cases s <;> cases t <;> simp [lt, place?]
    | finite t k f => cases s <;> simp [lt, place?]
  | finite s m e =>
    cases y with
    | nan => simp [lt, place?]
    | infinite t => cases t <;> simp [lt, place?, htop]
    | finite t k f => simp [lt_finite_iff, place?]

theorem same_iff {x y : Binary64} :
    x.same y = true ↔ ∃ a b, x.place? = some a ∧ y.place? = some b ∧ a = b := by
  rcases hx : x.place? with _ | a
  · have hnan : x = nan := by cases x <;> simp [place?] at hx ⊢
    simp [hnan, same]
  · rcases hy : y.place? with _ | b
    · have hnan : y = nan := by cases y <;> simp [place?] at hy ⊢
      cases x <;> simp [hnan, same]
    · have hsame : x.same y = (!x.lt y && !y.lt x) := by
        cases x with
        | nan => cases hx
        | _ =>
          cases y with
          | nan => cases hy
          | _ => rfl
      rw [hsame, Bool.and_eq_true, Bool.not_eq_true', Bool.not_eq_true', ← Bool.not_eq_true,
        ← Bool.not_eq_true, lt_iff, lt_iff]
      simp only [hx, hy, Option.some.injEq, exists_and_left, exists_eq_left', not_lt]
      exact ⟨fun ⟨hba, hab⟩ ↦ le_antisymm hab hba, fun h ↦ ⟨h.ge, h.le⟩⟩

/-- **The order is that of the places.** -/
theorem le_iff {x y : Binary64} :
    x.le y = true ↔ ∃ a b, x.place? = some a ∧ y.place? = some b ∧ a ≤ b := by
  rw [le, Bool.or_eq_true, lt_iff, same_iff]
  constructor
  · rintro (⟨a, b, ha, hb, h⟩ | ⟨a, b, ha, hb, h⟩)
    · exact ⟨a, b, ha, hb, h.le⟩
    · exact ⟨a, b, ha, hb, h.le⟩
  · rintro ⟨a, b, ha, hb, h⟩
    rcases h.lt_or_eq with h | h
    · exact .inl ⟨a, b, ha, hb, h⟩
    · exact .inr ⟨a, b, ha, hb, h⟩

theorem le_trans {x y z : Binary64} (hxy : x.le y = true) (hyz : y.le z = true) :
    x.le z = true := by
  obtain ⟨a, b, ha, hb, hab⟩ := le_iff.mp hxy
  obtain ⟨b', c, hb', hc, hbc⟩ := le_iff.mp hyz
  rw [hb] at hb'
  cases hb'
  exact le_iff.mpr ⟨a, c, ha, hc, hab.trans hbc⟩

/-! ## Rounding -/

section Rounding

variable {k n : ℕ} {t u : ℤ} {p q : ℕ}

/-- Of two whole numbers the larger one has no smaller exponent. -/
theorem targetExponent_mono (hk : k ≠ 0) (h : k ≤ n) :
    targetExponent k 1 ≤ targetExponent n 1 := by
  obtain ⟨raw, hraw, hlow, -⟩ := targetExponent_eq_max hk one_ne_zero
  obtain ⟨raw', hraw', -, hhigh⟩ := targetExponent_eq_max (by omega : n ≠ 0) one_ne_zero
  have hle : (k : ℚ) / (1 : ℕ) ≤ n / (1 : ℕ) := by
    rw [Nat.cast_one, div_one, div_one]
    exact_mod_cast h
  have hlt : (2 : ℚ) ^ (raw + 52) < 2 ^ (raw' + 53) := (hlow.trans hle).trans_lt hhigh
  rw [zpow_lt_zpow_iff_right₀ one_lt_two] at hlt
  omega

/-- In the same units the larger number is rounded to no less. -/
theorem roundDiv_mono {a b d : ℕ} (hd : 0 < d) (h : a ≤ b) : roundDiv a d ≤ roundDiv b d := by
  obtain ⟨-, hhigh⟩ := abs_le.mp (@abs_roundDiv_sub_le a d hd)
  obtain ⟨hlow, -⟩ := abs_le.mp (@abs_roundDiv_sub_le b d hd)
  by_contra hlt
  -- then both numbers are the midpoint between what they are rounded to
  have hgap : (roundDiv b d : ℚ) + 1 ≤ roundDiv a d := by exact_mod_cast not_le.mp hlt
  have hpos : (0 : ℚ) < d := by exact_mod_cast hd
  have hle : (b : ℚ) / d ≤ a / d := by linarith
  have hle' : (b : ℚ) ≤ a := (div_le_div_iff_of_pos_right hpos).mp hle
  have hsame : b = a := le_antisymm (by exact_mod_cast hle') h
  rw [hsame] at hlt
  exact hlt le_rfl

/-- What a whole number is rounded to, were there no largest double. -/
def roundedNat (n : ℕ) : ℚ :=
  roundDiv (scale n 1 (targetExponent n 1)).1 (scale n 1 (targetExponent n 1)).2 *
    2 ^ targetExponent n 1

theorem roundedNat_nonneg (n : ℕ) : 0 ≤ roundedNat n := by
  rw [roundedNat]
  positivity

theorem roundedNat_zero : roundedNat 0 = 0 := by
  have hzero : roundDiv (scale 0 1 (targetExponent 0 1)).1
      (scale 0 1 (targetExponent 0 1)).2 = 0 := by decide
  rw [roundedNat, hzero, Nat.cast_zero, zero_mul]

theorem scale_mono (h : k ≤ n) (e : ℤ) :
    (scale k 1 e).1 ≤ (scale n 1 e).1 ∧ (scale k 1 e).2 = (scale n 1 e).2 := by
  rw [scale, scale]
  split
  · exact ⟨h, rfl⟩
  · simp only [Nat.shiftLeft_eq, and_true]
    exact Nat.mul_le_mul_right _ h

theorem roundedNat_mono (h : k ≤ n) : roundedNat k ≤ roundedNat n := by
  by_cases hk : k = 0
  · rw [hk, roundedNat_zero]
    exact roundedNat_nonneg n
  · have hn : n ≠ 0 := by omega
    have hmono := targetExponent_mono hk h
    rw [roundedNat, roundedNat]
    generalize ht : targetExponent k 1 = t at hmono ⊢
    generalize hu : targetExponent n 1 = u at hmono ⊢
    rcases hmono.lt_or_eq with hlt | rfl
    · -- the power of two with the larger exponent lies between them
      obtain ⟨hmin, hbits, -⟩ := roundDiv_bounds hk one_ne_zero ht rfl
      obtain ⟨-, -, hfull⟩ := roundDiv_bounds hn one_ne_zero hu rfl
      have hfull' := hfull.resolve_right (by omega)
      have hbelow : (roundDiv (scale k 1 t).1 (scale k 1 t).2 : ℚ) ≤ 2 ^ 53 := by
        exact_mod_cast hbits
      have habove : (2 : ℚ) ^ 52 ≤ roundDiv (scale n 1 u).1 (scale n 1 u).2 := by
        exact_mod_cast hfull'
      calc _ ≤ (2 : ℚ) ^ 53 * 2 ^ t := by gcongr
        _ = 2 ^ 52 * 2 ^ (t + 1) := by rw [zpow_add_one₀ two_ne_zero]; ring
        _ ≤ 2 ^ 52 * 2 ^ u := by gcongr <;> [norm_num; omega]
        _ ≤ _ := by gcongr
    · obtain ⟨hscale, hsame⟩ := scale_mono h t
      rw [hsame]
      have hpos : 0 < (scale n 1 t).2 := scale_pos Nat.one_pos
      have hround := roundDiv_mono hpos hscale
      gcongr

theorem place?_finite_false (m : ℕ) (e : ℤ) :
    (finite false m e).place? = some (((m * 2 ^ e : ℚ) : WithTop ℚ) : WithBot (WithTop ℚ)) := by
  have hrational : rational false m e = m * 2 ^ e := by simp [rational, signed]
  rw [place?, hrational]

/-- A mantissa of 53 bits makes a number past the largest exponent exactly if its own exponent is
past it. -/
theorem overflows_iff {q : ℕ} {t top : ℤ} (hbits : q < 2 ^ 53) (hfull : 2 ^ 52 ≤ q ∨ t ≤ top) :
    (2 : ℚ) ^ (top + 53) ≤ q * 2 ^ t ↔ top < t := by
  constructor
  · intro hlarge
    by_contra hmax
    have hbits' : (q : ℚ) < 2 ^ 53 := by exact_mod_cast hbits
    have hsmall : (q : ℚ) * 2 ^ t < 2 ^ (top + 53) :=
      calc (q : ℚ) * 2 ^ t < (2 : ℚ) ^ 53 * 2 ^ t := by gcongr
        _ ≤ (2 : ℚ) ^ 53 * 2 ^ top := by gcongr <;> [norm_num; omega]
        _ = 2 ^ (top + 53) := by rw [zpow_add₀ two_ne_zero, mul_comm]; rfl
    exact hsmall.not_ge hlarge
  · intro hmax
    have hfull' : (2 : ℚ) ^ 52 ≤ q := by exact_mod_cast hfull.resolve_right (by omega)
    calc (2 : ℚ) ^ (top + 53) ≤ 2 ^ (t + 52) := zpow_le_zpow_right₀ one_le_two (by omega)
      _ = 2 ^ 52 * 2 ^ t := by rw [zpow_add₀ two_ne_zero, mul_comm]; rfl
      _ ≤ q * 2 ^ t := by gcongr

/-- A whole number past the largest double is rounded to the infinity. -/
theorem place?_ofNat (n : ℕ) :
    (ofNat n).place? = some (if 2 ^ (maxExponent + 53) ≤ roundedNat n then ⊤
      else ((roundedNat n : WithTop ℚ) : WithBot (WithTop ℚ))) := by
  by_cases hn : n = 0
  · rw [hn, roundedNat_zero, if_neg (not_le.mpr (by positivity))]
    have hzero : rational false 0 minExponent = 0 := by simp [rational, signed]
    rw [ofNat, ofRatio, if_pos rfl, place?, hzero]
  · rw [ofNat, ofRatio_eq hn rfl rfl, roundedNat]
    obtain ⟨hmin, hbits, hfull⟩ := roundDiv_bounds hn one_ne_zero rfl rfl
    generalize targetExponent n 1 = t at *
    generalize roundDiv (scale n 1 t).1 (scale n 1 t).2 = q at *
    have hleast : minExponent < maxExponent := by decide
    generalize maxExponent = top at *
    by_cases hcarry : q = 2 ^ 53
    · -- the mantissa is halved and the exponent raised, which is the same number
      have hsame : (q : ℚ) * 2 ^ t = (2 ^ 52 : ℕ) * 2 ^ (t + 1) := by
        rw [hcarry, zpow_add_one₀ two_ne_zero]
        push_cast
        ring
      have hoverflow : (2 : ℚ) ^ (top + 53) ≤ (2 ^ 52 : ℕ) * 2 ^ (t + 1) ↔ top < t + 1 :=
        overflows_iff (by decide) (.inl le_rfl)
      rw [if_pos hcarry, hsame]
      by_cases hmax : top < t + 1
      · rw [if_pos hmax, if_pos (hoverflow.mpr hmax)]
        rfl
      · rw [if_neg hmax, if_neg (mt hoverflow.mp hmax), place?_finite_false]
    · have hoverflow : (2 : ℚ) ^ (top + 53) ≤ q * 2 ^ t ↔ top < t :=
        overflows_iff (lt_of_le_of_ne hbits hcarry) (hfull.imp_right fun h ↦ by omega)
      rw [if_neg hcarry]
      by_cases hmax : top < t
      · rw [if_pos hmax, if_pos (hoverflow.mpr hmax)]
        rfl
      · rw [if_neg hmax, if_neg (mt hoverflow.mp hmax), place?_finite_false]

/-- **Rounding keeps the order** of whole numbers. -/
theorem ofNat_le_ofNat (h : k ≤ n) : (ofNat k).le (ofNat n) = true := by
  refine le_iff.mpr ⟨_, _, place?_ofNat k, place?_ofNat n, ?_⟩
  have hmono := roundedNat_mono h
  by_cases hlarge : 2 ^ (maxExponent + 53) ≤ roundedNat n
  · rw [if_pos hlarge]
    exact le_top
  · have hlarge' : ¬2 ^ (maxExponent + 53) ≤ roundedNat k := fun hk ↦ hlarge (hk.trans hmono)
    rw [if_neg hlarge, if_neg hlarge']
    exact_mod_cast hmono

/-- A whole number of at most 53 bits is what its double is worth. -/
theorem toInt?_ofNat (h : n < 2 ^ 53) : (ofNat n).toInt? = some (n : ℤ) := by
  by_cases hn : n = 0
  · subst hn
    rfl
  · obtain ⟨shift, hshift⟩ := @ofRatio_whole false 1 n hn h one_ne_zero
    rw [Nat.mul_one] at hshift
    obtain ⟨a, b, hratio, hb, hab⟩ := toRatio?_finite false (n * 2 ^ shift) (-shift)
    have hworth : rational false (n * 2 ^ shift) (-shift) = n := by
      simp [rational, signed]
    have hb' : (b : ℚ) ≠ 0 := by exact_mod_cast hb.ne'
    rw [hworth, div_eq_iff hb'] at hab
    have ha : a = n * b := by exact_mod_cast hab
    have hb'' : (b : ℤ) ≠ 0 := by exact_mod_cast hb.ne'
    rw [ofNat, hshift, toInt?, hratio, Option.bind_some, ha]
    simp [Int.mul_tdiv_cancel _ hb'']

end Rounding

end SessionGate.Binary64
