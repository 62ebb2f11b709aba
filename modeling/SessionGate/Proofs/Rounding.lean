import Mathlib.Algebra.Order.Field.Power
import Mathlib.Data.Rat.Cast.Order
import Mathlib.Tactic.FieldSimp
import Mathlib.Tactic.Linarith
import Mathlib.Tactic.Positivity
import Mathlib.Tactic.Ring
import SessionGate.Binary64
import SessionGate.Proofs.Digits

/-!
# Which numbers round to a double

`Binary64.ofRatio` computes with numerators, denominators and shifts. `Rounds m e x` says in terms
of rationals which numbers `x` it must take to `m · 2 ^ e`: those between the midpoints to the
neighbours, the midpoints themselves if the mantissa is even. `ofRatio_of_rounds` is the only place
where the two meet.

Everything is measured in units of `2 ^ e`. Below a power of two the units change: the neighbour is
only half a unit away there, and the quotient that is rounded is one of the units below, up to a
mantissa that is carried over.
-/

namespace SessionGate.Binary64

/-- The representation of a double that `ofRatio` returns. -/
def IsCanonical : Binary64 → Prop
  | .finite _ m e =>
    m < 2 ^ 53 ∧ minExponent ≤ e ∧ e ≤ maxExponent ∧ (2 ^ 52 ≤ m ∨ e = minExponent)
  | _ => True

/-! ## Rounding to a natural number -/

section RoundDiv

variable {n d m : ℕ}

/-- A quotient between the midpoints is rounded to the number between them. -/
theorem roundDiv_eq (hd : 0 < d) (hlow : (m : ℚ) - 1 / 2 ≤ n / d) (hhigh : (n : ℚ) / d ≤ m + 1 / 2)
    (hodd : m % 2 = 1 → (m : ℚ) - 1 / 2 < n / d ∧ (n : ℚ) / d < m + 1 / 2) :
    roundDiv n d = m := by
  have hpos : (0 : ℚ) < d := by exact_mod_cast hd
  rw [le_div_iff₀ hpos] at hlow
  rw [div_le_iff₀ hpos] at hhigh
  rw [lt_div_iff₀ hpos, div_lt_iff₀ hpos] at hodd
  have hlow' : 2 * (m * d) ≤ 2 * n + d := by
    have : (2 * (m * d) : ℚ) ≤ 2 * n + d := by linarith
    exact_mod_cast this
  have hhigh' : 2 * n ≤ 2 * (m * d) + d := by
    have : (2 * n : ℚ) ≤ 2 * (m * d) + d := by linarith
    exact_mod_cast this
  have hodd' : m % 2 = 1 → 2 * (m * d) < 2 * n + d ∧ 2 * n < 2 * (m * d) + d := by
    intro hm
    obtain ⟨hl, hh⟩ := hodd hm
    have hl' : (2 * (m * d) : ℚ) < 2 * n + d := by linarith
    have hh' : (2 * n : ℚ) < 2 * (m * d) + d := by linarith
    exact ⟨by exact_mod_cast hl', by exact_mod_cast hh'⟩
  have hdiv : n = n / d * d + n % d := (Nat.div_add_mod' n d).symm
  have hrem : n % d < d := Nat.mod_lt n hd
  rw [roundDiv]
  generalize n / d = q at hdiv ⊢
  generalize n % d = r at hdiv hrem ⊢
  -- the number is the quotient or the next one
  have hbelow : m < q + 2 := by
    have h : m * d < (q + 2) * d := by linarith
    exact Nat.lt_of_mul_lt_mul_right h
  have habove : q < m + 1 := by
    have h : q * d < (m + 1) * d := by linarith
    exact Nat.lt_of_mul_lt_mul_right h
  obtain rfl | rfl : m = q ∨ m = q + 1 := by omega
  · have hle : 2 * r ≤ d := by linarith
    have hlt : m % 2 = 1 → 2 * r < d := fun hm ↦ by linarith [(hodd' hm).2]
    split_ifs <;> omega
  · have hle : d ≤ 2 * r := by linarith
    have hlt : (q + 1) % 2 = 1 → d < 2 * r := fun hm ↦ by linarith [(hodd' hm).1]
    split_ifs <;> omega

/-- What a quotient is rounded to is at most a half away from it. -/
theorem abs_roundDiv_sub_le (hd : 0 < d) : |(roundDiv n d : ℚ) - n / d| ≤ 1 / 2 := by
  have hpos : (0 : ℚ) < d := by exact_mod_cast hd
  have hdiv : (n : ℚ) = (n / d : ℕ) * d + (n % d : ℕ) := by
    exact_mod_cast (Nat.div_add_mod' n d).symm
  have hrem : n % d < d := Nat.mod_lt n hd
  rw [roundDiv]
  generalize n / d = q at hdiv ⊢
  generalize n % d = r at hdiv hrem ⊢
  have hquotient : (n : ℚ) / d = q + r / d := by
    rw [hdiv]
    field_simp
  have hrest : (r : ℚ) / d < 1 := (div_lt_one hpos).mpr (by exact_mod_cast hrem)
  have hrest' : 0 ≤ (r : ℚ) / d := by positivity
  have hdown (h : 2 * r ≤ d) : |(q : ℚ) - (q + r / d)| ≤ 1 / 2 := by
    have hle : (r : ℚ) / d ≤ 1 / 2 := by
      rw [div_le_div_iff₀ hpos two_pos]
      exact_mod_cast (by omega : r * 2 ≤ 1 * d)
    rw [abs_le]
    constructor <;> linarith
  have hup (h : d ≤ 2 * r) : |((q + 1 : ℕ) : ℚ) - (q + r / d)| ≤ 1 / 2 := by
    have hle : 1 / 2 ≤ (r : ℚ) / d := by
      rw [div_le_div_iff₀ two_pos hpos]
      exact_mod_cast (by omega : 1 * d ≤ r * 2)
    push_cast
    rw [abs_le]
    constructor <;> linarith
  rw [hquotient]
  split_ifs
  · exact hdown (by omega)
  · exact hup (by omega)
  · exact hdown (by omega)
  · exact hup (by omega)

end RoundDiv

/-! ## Scaling -/

/-- The fraction `num / den` divided by a power of the base, as a numerator and a denominator. -/
def scaleBy (base num den : ℕ) (e : ℤ) : ℕ × ℕ :=
  if 0 ≤ e then (num, den * base ^ e.toNat) else (num * base ^ (-e).toNat, den)

theorem scaleBy_pos {base num den : ℕ} {e : ℤ} (hbase : 0 < base) (hden : 0 < den) :
    0 < (scaleBy base num den e).2 := by
  rw [scaleBy]
  split
  · positivity
  · exact hden

theorem scaleBy_div {base : ℕ} (num den : ℕ) (e : ℤ) :
    ((scaleBy base num den e).1 : ℚ) / (scaleBy base num den e).2 = num / den / base ^ e := by
  rw [scaleBy]
  split
  · next he =>
    obtain ⟨k, rfl⟩ := Int.eq_ofNat_of_zero_le he
    rw [Int.toNat_natCast, zpow_natCast]
    push_cast
    rw [div_div]
  · next he =>
    obtain ⟨k, hk⟩ := Int.eq_ofNat_of_zero_le (by omega : 0 ≤ -e)
    obtain rfl : e = -k := by omega
    rw [neg_neg, Int.toNat_natCast, zpow_neg, zpow_natCast, div_inv_eq_mul]
    push_cast
    rw [mul_div_right_comm]

theorem scale_eq (num den : ℕ) (e : ℤ) : scale num den e = scaleBy 2 num den e := by
  rw [scale, scaleBy, Nat.shiftLeft_eq, Nat.shiftLeft_eq]

theorem scale_pos {num den : ℕ} {e : ℤ} (hden : 0 < den) : 0 < (scale num den e).2 := by
  rw [scale_eq]
  exact scaleBy_pos two_pos hden

theorem scale_div (num den : ℕ) (e : ℤ) :
    ((scale num den e).1 : ℚ) / (scale num den e).2 = num / den / 2 ^ e := by
  rw [scale_eq]
  exact scaleBy_div num den e

/-! ## The exponent -/

section Exponent

variable {num den : ℕ} {e : ℤ}

/-- A number lies between two powers of two that are told from the lengths of numerator and
denominator. -/
theorem between_log2 (hnum : num ≠ 0) (hden : den ≠ 0) :
    (2 : ℚ) ^ ((num.log2 : ℤ) - den.log2 - 1) < num / den ∧
      (num : ℚ) / den < 2 ^ ((num.log2 : ℤ) - den.log2 + 1) := by
  have hpos : (0 : ℚ) < den := by exact_mod_cast Nat.pos_of_ne_zero hden
  have hnumLow : (2 : ℚ) ^ (num.log2 : ℤ) ≤ num := by
    exact_mod_cast Nat.log2_self_le hnum
  have hnumHigh : (num : ℚ) < 2 ^ ((num.log2 : ℤ) + 1) := by
    exact_mod_cast @Nat.lt_log2_self num
  have hdenLow : (2 : ℚ) ^ (den.log2 : ℤ) ≤ den := by
    exact_mod_cast Nat.log2_self_le hden
  have hdenHigh : (den : ℚ) < 2 ^ ((den.log2 : ℤ) + 1) := by
    exact_mod_cast @Nat.lt_log2_self den
  rw [lt_div_iff₀ hpos, div_lt_iff₀ hpos]
  constructor
  · calc (2 : ℚ) ^ ((num.log2 : ℤ) - den.log2 - 1) * den
        < 2 ^ ((num.log2 : ℤ) - den.log2 - 1) * 2 ^ ((den.log2 : ℤ) + 1) := by gcongr
      _ = 2 ^ (num.log2 : ℤ) := by
        rw [← zpow_add₀ two_ne_zero]
        congr 1
        omega
      _ ≤ num := hnumLow
  · calc (num : ℚ) < 2 ^ ((num.log2 : ℤ) + 1) := hnumHigh
      _ = 2 ^ ((num.log2 : ℤ) - den.log2 + 1) * 2 ^ (den.log2 : ℤ) := by
        rw [← zpow_add₀ two_ne_zero]
        congr 1
        omega
      _ ≤ 2 ^ ((num.log2 : ℤ) - den.log2 + 1) * den := by gcongr

/-- The exponent gives a mantissa of 53 bits, unless it would be too small. -/
theorem targetExponent_eq_max (hnum : num ≠ 0) (hden : den ≠ 0) :
    ∃ raw : ℤ, targetExponent num den = max minExponent raw ∧
      (2 : ℚ) ^ (raw + 52) ≤ num / den ∧ (num : ℚ) / den < 2 ^ (raw + 53) := by
  obtain ⟨hlow, hhigh⟩ := between_log2 hnum hden
  obtain ⟨guess, hguess⟩ : ∃ guess : ℤ, guess = num.log2 - den.log2 - 52 := ⟨_, rfl⟩
  have htarget : targetExponent num den = max minExponent
      (if (scale num den guess).1 / (scale num den guess).2 < 2 ^ 52 then guess - 1
        else guess) := by
    rw [hguess]
    rfl
  refine ⟨_, htarget, ?_⟩
  rw [show (num.log2 : ℤ) - den.log2 - 1 = guess + 51 by omega] at hlow
  rw [show (num.log2 : ℤ) - den.log2 + 1 = guess + 53 by omega] at hhigh
  have hpos : 0 < (scale num den guess).2 := scale_pos (Nat.pos_of_ne_zero hden)
  have hscale := scale_div num den guess
  generalize (scale num den guess).1 = n at hscale ⊢
  generalize (scale num den guess).2 = d at hpos hscale ⊢
  have hunit : (0 : ℚ) < 2 ^ guess := by positivity
  have hx : (num : ℚ) / den = n / d * 2 ^ guess := by
    rw [hscale, div_mul_cancel₀ _ hunit.ne']
  have hbits : (2 : ℚ) ^ (guess + 52) = 2 ^ 52 * 2 ^ guess := by
    rw [zpow_add₀ two_ne_zero, mul_comm]
    rfl
  split
  · next hshort =>
    have hlt : (n : ℚ) / d < 2 ^ 52 := by
      rw [div_lt_iff₀ (by exact_mod_cast hpos)]
      exact_mod_cast (Nat.div_lt_iff_lt_mul hpos).mp hshort
    constructor
    · rw [show guess - 1 + 52 = guess + 51 by omega]
      exact hlow.le
    · rw [show guess - 1 + 53 = guess + 52 by omega, hbits, hx]
      gcongr
  · next hlong =>
    have hle : 2 ^ 52 ≤ (n : ℚ) / d := by
      rw [le_div_iff₀ (by exact_mod_cast hpos)]
      exact_mod_cast (Nat.le_div_iff_mul_le hpos).mp (Nat.not_lt.mp hlong)
    refine ⟨?_, hhigh⟩
    rw [hbits, hx]
    gcongr

/-- The exponent of a number is known from its size. -/
theorem targetExponent_eq (hnum : num ≠ 0) (hden : den ≠ 0) (hmin : minExponent ≤ e)
    (hlow : e = minExponent ∨ (2 : ℚ) ^ 52 ≤ num / den / 2 ^ e)
    (hhigh : (num : ℚ) / den / 2 ^ e < 2 ^ 53) : targetExponent num den = e := by
  obtain ⟨raw, htarget, hrawLow, hrawHigh⟩ := targetExponent_eq_max hnum hden
  have hunit : (0 : ℚ) < 2 ^ e := by positivity
  have hle : raw ≤ e := by
    rw [div_lt_iff₀ hunit, mul_comm] at hhigh
    have hlt : (2 : ℚ) ^ (raw + 52) < 2 ^ (e + 53) := by
      rw [zpow_add₀ two_ne_zero e]
      exact hrawLow.trans_lt hhigh
    rw [zpow_lt_zpow_iff_right₀ one_lt_two] at hlt
    omega
  rw [htarget]
  rcases hlow with rfl | hlow
  · exact max_eq_left hle
  · rw [le_div_iff₀ hunit, mul_comm] at hlow
    have hlt : (2 : ℚ) ^ (e + 52) < 2 ^ (raw + 53) := by
      rw [zpow_add₀ two_ne_zero e]
      exact hlow.trans_lt hrawHigh
    rw [zpow_lt_zpow_iff_right₀ one_lt_two] at hlt
    omega

end Exponent

/-! ## The double -/

/-- The number rounds to the positive double `m · 2 ^ e`, which is written in canonical form. Below
a power of two the neighbour is closer, unless the exponent is the least one. -/
structure Rounds (m : ℕ) (e : ℤ) (x : ℚ) : Prop where
  low : (m : ℚ) - 1 / 2 ≤ x / 2 ^ e
  narrow : m = 2 ^ 52 → minExponent < e → (m : ℚ) - 1 / 4 ≤ x / 2 ^ e
  high : x / 2 ^ e ≤ m + 1 / 2
  odd : m % 2 = 1 → (m : ℚ) - 1 / 2 < x / 2 ^ e ∧ x / 2 ^ e < m + 1 / 2

section OfRatio

variable {negative : Bool} {num den m q : ℕ} {e t : ℤ}

theorem Rounds.pos {x : ℚ} (h : Rounds m e x) (hm : m ≠ 0) : 0 < x := by
  have hunit : (0 : ℚ) < 2 ^ e := by positivity
  have hone : (1 : ℚ) ≤ m := by exact_mod_cast Nat.pos_of_ne_zero hm
  have hquotient : 0 < x / 2 ^ e := by linarith [h.low]
  exact (div_pos_iff_of_pos_right hunit).mp hquotient

/-- A mantissa of 54 bits is carried over. -/
theorem ofRatio_eq (hnum : num ≠ 0) (ht : targetExponent num den = t)
    (hq : roundDiv (scale num den t).1 (scale num den t).2 = q) :
    ofRatio negative num den =
      if q = 2 ^ 53 then
        if maxExponent < t + 1 then .infinite negative else .finite negative (2 ^ 52) (t + 1)
      else if maxExponent < t then .infinite negative else .finite negative q t := by
  rw [ofRatio, if_neg hnum, ht]
  simp only [Nat.pow_eq, hq]
  by_cases hcarry : q = 2 ^ 53
  · simp only [if_pos hcarry]
  · simp only [if_neg hcarry]

/-- **A double is what the numbers around it are rounded to.** -/
theorem ofRatio_of_rounds (hcanonical : (Binary64.finite negative m e).IsCanonical) (hm : m ≠ 0)
    (hden : den ≠ 0) (h : Rounds m e (num / den)) :
    ofRatio negative num den = .finite negative m e := by
  obtain ⟨hbits, hmin, hmax, hfull⟩ := hcanonical
  have hnum : num ≠ 0 := by
    rintro rfl
    exact absurd (h.pos hm) (by simp)
  have hbits' : (m : ℚ) + 1 ≤ 2 ^ 53 := by exact_mod_cast hbits
  have hscale := scale_div num den
  have hpos (t : ℤ) : 0 < (scale num den t).2 := scale_pos (Nat.pos_of_ne_zero hden)
  by_cases hbelow : (num : ℚ) / den / 2 ^ e < 2 ^ 52 ∧ minExponent < e
  · -- the quotient lies between a power of two and the midpoint below it
    obtain ⟨hbelow, hleast⟩ := hbelow
    have hle : 2 ^ 52 ≤ m := hfull.resolve_right (by omega)
    have hpower : m = 2 ^ 52 := by
      have hlt : (m : ℚ) < 2 ^ 52 + 1 := by linarith [h.low]
      have hlt' : m < 2 ^ 52 + 1 := by exact_mod_cast hlt
      omega
    have hnarrow := h.narrow hpower hleast
    have hhalf : (num : ℚ) / den / 2 ^ (e - 1) = 2 * (num / den / 2 ^ e) := by
      rw [zpow_sub_one₀ two_ne_zero]
      field_simp
    rw [hpower] at hnarrow
    push_cast at hnarrow
    have ht : targetExponent num den = e - 1 := by
      refine targetExponent_eq hnum hden (by omega) (.inr ?_) ?_ <;> rw [hhalf] <;> linarith
    have hq : roundDiv (scale num den (e - 1)).1 (scale num den (e - 1)).2 = 2 ^ 53 := by
      refine roundDiv_eq (hpos _) ?_ ?_ (fun hodd ↦ absurd hodd (by decide)) <;>
        rw [hscale, hhalf] <;> push_cast <;> linarith
    rw [ofRatio_eq hnum ht hq, if_pos rfl, if_neg (by omega), hpower, Int.sub_add_cancel]
  · have ht : targetExponent num den = e := by
      refine targetExponent_eq hnum hden hmin ?_ (by linarith [h.high])
      by_cases hleast : e = minExponent
      · exact .inl hleast
      · exact .inr (not_lt.mp fun hlt ↦ hbelow ⟨hlt, by omega⟩)
    have hq : roundDiv (scale num den e).1 (scale num den e).2 = m := by
      refine roundDiv_eq (hpos _) ?_ ?_ ?_ <;> rw [hscale]
      · exact h.low
      · exact h.high
      · exact h.odd
    rw [ofRatio_eq hnum ht hq, if_neg (by omega), if_neg (by omega)]

/-- A double is rounded to itself. -/
theorem rounds_self (m : ℕ) (e : ℤ) : Rounds m e (m * 2 ^ e) := by
  have hunit : (2 : ℚ) ^ e ≠ 0 := zpow_ne_zero e two_ne_zero
  have hvalue : (m : ℚ) * 2 ^ e / 2 ^ e = m := mul_div_cancel_right₀ _ hunit
  refine ⟨?_, fun _ _ ↦ ?_, ?_, fun _ ↦ ⟨?_, ?_⟩⟩ <;> rw [hvalue] <;> linarith

/-- Whole numbers of at most 53 bits are doubles. -/
theorem ofRatio_whole {k : ℕ} (hk : k ≠ 0) (hbits : k < 2 ^ 53) (hden : den ≠ 0) :
    ∃ shift : ℕ, ofRatio negative (k * den) den = .finite negative (k * 2 ^ shift) (-shift) := by
  have hlog : k.log2 ≤ 52 := by
    rw [← Nat.lt_succ_iff, Nat.log2_lt hk]
    exact hbits
  refine ⟨52 - k.log2, ofRatio_of_rounds ⟨?_, ?_, ?_, .inl ?_⟩ (by positivity) hden ?_⟩
  · calc k * 2 ^ (52 - k.log2) < 2 ^ (k.log2 + 1) * 2 ^ (52 - k.log2) :=
          Nat.mul_lt_mul_of_pos_right Nat.lt_log2_self (by positivity)
      _ = 2 ^ 53 := by rw [← Nat.pow_add]; congr 1; omega
  · rw [minExponent]
    omega
  · rw [maxExponent]
    omega
  · calc 2 ^ 52 = 2 ^ k.log2 * 2 ^ (52 - k.log2) := by rw [← Nat.pow_add]; congr 1; omega
      _ ≤ k * 2 ^ (52 - k.log2) := Nat.mul_le_mul_right _ (Nat.log2_self_le hk)
  · have hden' : (den : ℚ) ≠ 0 := by exact_mod_cast hden
    have hvalue : ((k * den : ℕ) : ℚ) / den =
        (k * 2 ^ (52 - k.log2) : ℕ) * 2 ^ (-((52 - k.log2 : ℕ) : ℤ)) := by
      push_cast
      rw [mul_div_cancel_right₀ _ hden', zpow_neg, zpow_natCast, mul_assoc,
        mul_inv_cancel₀ (by positivity), mul_one]
    rw [hvalue]
    exact rounds_self _ _

end OfRatio

/-! ## Decimals -/

section OfDecimal

variable {negative : Bool} {digits m : ℕ} {e exponent : ℤ}

theorem two_pow_lt_ten_pow : (2 : ℚ) ^ (1300 : ℤ) < 10 ^ (400 : ℤ) := by
  rw [show (1300 : ℤ) = 13 * (100 : ℕ) by norm_num, show (400 : ℤ) = 4 * (100 : ℕ) by norm_num,
    zpow_mul, zpow_mul, zpow_natCast, zpow_natCast]
  exact pow_lt_pow_left₀ (by norm_num) (by norm_num) (by norm_num)

/-- Numbers that round to a double are far inside the range of the exponents that are computed. -/
theorem Rounds.bounds {x : ℚ} (h : Rounds m e x) (hm : m ≠ 0)
    (hcanonical : (Binary64.finite negative m e).IsCanonical) :
    (10 : ℚ) ^ (-400 : ℤ) < x ∧ x < 10 ^ (400 : ℤ) := by
  obtain ⟨hbits, hmin, hmax, -⟩ := hcanonical
  have hunit : (0 : ℚ) < 2 ^ e := by positivity
  have hone : (1 : ℚ) ≤ m := by exact_mod_cast Nat.pos_of_ne_zero hm
  have hbits' : (m : ℚ) + 1 ≤ 2 ^ 53 := by exact_mod_cast hbits
  have hlow : 1 / 2 ≤ x / 2 ^ e := by linarith [h.low]
  have hhigh : x / 2 ^ e ≤ 2 ^ 53 := by linarith [h.high]
  rw [le_div_iff₀ hunit] at hlow
  rw [div_le_iff₀ hunit] at hhigh
  constructor
  · calc (10 : ℚ) ^ (-400 : ℤ) < 2 ^ (-1300 : ℤ) := by
          rw [zpow_neg, zpow_neg]
          exact inv_strictAnti₀ (by positivity) two_pow_lt_ten_pow
      _ ≤ 2 ^ (e - 1) := zpow_le_zpow_right₀ one_le_two (by rw [minExponent] at hmin; omega)
      _ = 1 / 2 * 2 ^ e := by rw [zpow_sub_one₀ two_ne_zero]; ring
      _ ≤ x := hlow
  · calc x ≤ 2 ^ 53 * 2 ^ e := hhigh
      _ = 2 ^ (53 + e) := by rw [zpow_add₀ two_ne_zero]; rfl
      _ ≤ 2 ^ (1300 : ℤ) := zpow_le_zpow_right₀ one_le_two (by rw [maxExponent] at hmax; omega)
      _ < 10 ^ (400 : ℤ) := two_pow_lt_ten_pow

/-- **A double is what the decimals around it are read as.** -/
theorem ofDecimal_of_rounds (hcanonical : (Binary64.finite negative m e).IsCanonical) (hm : m ≠ 0)
    (h : Rounds m e (digits * 10 ^ exponent)) :
    ofDecimal negative digits exponent = .finite negative m e := by
  obtain ⟨hlow, hhigh⟩ := h.bounds hm hcanonical
  have hdigits : digits ≠ 0 := by
    rintro rfl
    exact absurd (h.pos hm) (by simp)
  have hunit : (0 : ℚ) < 10 ^ exponent := by positivity
  have hlength : 0 < (Nat.toDigits 10 digits).length := Nat.length_toDigits_pos
  have hbelow : (digits : ℚ) < 10 ^ ((Nat.toDigits 10 digits).length : ℤ) := by
    exact_mod_cast Text.lt_pow_length_toDigits digits
  have habove : (10 : ℚ) ^ (((Nat.toDigits 10 digits).length - 1 : ℕ) : ℤ) ≤ digits := by
    exact_mod_cast Text.pow_length_toDigits_le hdigits
  rw [ofDecimal, if_neg hdigits]
  generalize (Nat.toDigits 10 digits).length = n at hlength hbelow habove ⊢
  have hsmall : ¬(n : ℤ) + exponent < -400 := by
    intro hlt
    have hpower : (10 : ℚ) ^ (-400 : ℤ) < 10 ^ ((n : ℤ) + exponent) := by
      rw [zpow_add₀ (by norm_num)]
      exact hlow.trans (by gcongr)
    rw [zpow_lt_zpow_iff_right₀ (by norm_num)] at hpower
    omega
  have hlarge : ¬400 < (n : ℤ) + exponent := by
    intro hlt
    have hpower : (10 : ℚ) ^ (((n - 1 : ℕ) : ℤ) + exponent) < 10 ^ (400 : ℤ) := by
      rw [zpow_add₀ (by norm_num)]
      exact (mul_le_mul_of_nonneg_right habove hunit.le).trans_lt hhigh
    rw [zpow_lt_zpow_iff_right₀ (by norm_num)] at hpower
    omega
  rw [if_neg hsmall, if_neg hlarge]
  split
  · next hexponent =>
    obtain ⟨k, rfl⟩ := Int.eq_ofNat_of_zero_le hexponent
    refine ofRatio_of_rounds hcanonical hm one_ne_zero ?_
    rw [Int.toNat_natCast, Nat.pow_eq]
    push_cast
    rwa [div_one, ← zpow_natCast]
  · next hexponent =>
    obtain ⟨k, hk⟩ := Int.eq_ofNat_of_zero_le (by omega : 0 ≤ -exponent)
    obtain rfl : exponent = -k := by omega
    refine ofRatio_of_rounds hcanonical hm (by simp) ?_
    rw [neg_neg, Int.toNat_natCast, Nat.pow_eq]
    push_cast
    rwa [div_eq_mul_inv, ← zpow_natCast, ← zpow_neg]

end OfDecimal

/-! ## Canonical form -/

section IsCanonical

variable {num den : ℕ}

/-- The mantissa of a number at its exponent fits into the bits of a double, and fills them unless
the exponent is the least one. -/
theorem roundDiv_bounds (hnum : num ≠ 0) (hden : den ≠ 0) {t : ℤ}
    (ht : targetExponent num den = t) {q : ℕ}
    (hq : roundDiv (scale num den t).1 (scale num den t).2 = q) :
    minExponent ≤ t ∧ q ≤ 2 ^ 53 ∧ (2 ^ 52 ≤ q ∨ t = minExponent) := by
  obtain ⟨raw, htarget, hrawLow, hrawHigh⟩ := targetExponent_eq_max hnum hden
  rw [ht] at htarget
  have hunit : (0 : ℚ) < 2 ^ t := by positivity
  have hpos : 0 < (scale num den t).2 := scale_pos (Nat.pos_of_ne_zero hden)
  have hround : |(roundDiv (scale num den t).1 (scale num den t).2 : ℚ) -
      (scale num den t).1 / (scale num den t).2| ≤ 1 / 2 := abs_roundDiv_sub_le hpos
  rw [hq, scale_div, abs_le] at hround
  obtain ⟨hbelow, habove⟩ := hround
  refine ⟨by omega, ?_, ?_⟩
  · have hhigh : (num : ℚ) / den / 2 ^ t < 2 ^ 53 := by
      rw [div_lt_iff₀ hunit]
      calc (num : ℚ) / den < 2 ^ (raw + 53) := hrawHigh
        _ ≤ 2 ^ (t + 53) := zpow_le_zpow_right₀ one_le_two (by omega)
        _ = 2 ^ 53 * 2 ^ t := by rw [zpow_add₀ two_ne_zero, mul_comm]; rfl
    have hle : (q : ℚ) < 2 ^ 53 + 1 := by linarith
    have hlt : q < 2 ^ 53 + 1 := by exact_mod_cast hle
    omega
  · by_cases hleast : t = minExponent
    · exact .inr hleast
    · have hraw : raw = t := by omega
      have hlow : 2 ^ 52 ≤ (num : ℚ) / den / 2 ^ t := by
        rw [le_div_iff₀ hunit]
        calc (2 : ℚ) ^ 52 * 2 ^ t = 2 ^ (t + 52) := by rw [zpow_add₀ two_ne_zero, mul_comm]; rfl
          _ ≤ num / den := by rw [← hraw]; exact hrawLow
      have hle : (2 : ℚ) ^ 52 < q + 1 := by linarith
      have hlt : 2 ^ 52 < q + 1 := by exact_mod_cast hle
      exact .inl (by omega)

/-- What is computed is in canonical form. -/
theorem isCanonical_ofRatio (negative : Bool) (num : ℕ) (hden : den ≠ 0) :
    (ofRatio negative num den).IsCanonical := by
  by_cases hnum : num = 0
  · rw [ofRatio, if_pos hnum]
    exact ⟨by decide, le_refl _, by decide, .inr rfl⟩
  · obtain ⟨hmin, hbits, hfull⟩ := roundDiv_bounds hnum hden rfl rfl
    rw [ofRatio_eq hnum rfl rfl]
    split
    · split
      · trivial
      · next hmax => exact ⟨by decide, by omega, not_lt.mp hmax, .inl (le_refl _)⟩
    · next hcarry =>
      split
      · trivial
      · next hmax => exact ⟨lt_of_le_of_ne hbits hcarry, hmin, not_lt.mp hmax, hfull⟩

theorem isCanonical_ofDecimal (negative : Bool) (digits : ℕ) (exponent : ℤ) :
    (ofDecimal negative digits exponent).IsCanonical := by
  have hzero : (Binary64.finite negative 0 minExponent).IsCanonical :=
    ⟨by decide, le_refl _, by decide, .inr rfl⟩
  simp only [ofDecimal]
  split
  · exact hzero
  · split
    · exact hzero
    · split
      · trivial
      · split
        · exact isCanonical_ofRatio _ _ one_ne_zero
        · exact isCanonical_ofRatio _ _ (Nat.pow_pos (by decide)).ne'

end IsCanonical

end SessionGate.Binary64
