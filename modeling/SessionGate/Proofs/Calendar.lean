import SessionGate.Moment

/-!
# The days of the calendar

`Calendar.dateOf` finds the date of a day by dividing, and `Calendar.dayNumber` counts the days
before it. `IsDate` says what a date of the calendar is, and `dateOf_isDate` that `dateOf` gives
one, whose number is the one it was given.

The divisions are by the lengths of periods of 400, 100 and 4 years and of one year. The last day of
a leap year is past the end of a whole number of years of 365 days, and this is the only case in
which a quotient is one too large.
-/

namespace SessionGate.Calendar

structure IsDate (year month day : Nat) : Prop where
  year_pos : 1 ≤ year
  year_le : year ≤ 9999
  month_pos : 1 ≤ month
  month_le : month ≤ 12
  day_pos : 1 ≤ day
  day_le : day ≤ daysInMonth year month

/-! ## Years -/

/-- The days of some periods together. -/
def total : List Nat → Nat
  | [] => 0
  | length :: lengths => length + total lengths

theorem foldl_eq_total (lengths : List Nat) (n : Nat) :
    lengths.foldl (· + ·) n = n + total lengths := by
  induction lengths generalizing n with
  | nil => rfl
  | cons length lengths ih => rw [List.foldl_cons, ih, total, Nat.add_assoc]

def yearLength (year : Nat) : Nat :=
  total (monthLengths (isLeap year))

theorem yearLength_eq (year : Nat) : yearLength year = if isLeap year then 366 else 365 := by
  rw [yearLength]
  cases isLeap year <;> rfl

theorem isLeap_eq_true_iff {year : Nat} :
    isLeap year = true ↔ year % 4 = 0 ∧ (year % 100 ≠ 0 ∨ year % 400 = 0) := by
  simp [isLeap]

/-- The days before a year, by the periods that have passed. -/
theorem daysBeforeYear_eq {centuries leaps years : Nat} (n : Nat) (hcenturies : centuries < 4)
    (hleaps : leaps < 25) (hyears : years < 4) :
    daysBeforeYear (n * 400 + centuries * 100 + leaps * 4 + years + 1) =
      n * 146097 + centuries * 36524 + leaps * 1461 + years * 365 := by
  have h4 : (n * 400 + centuries * 100 + leaps * 4 + years) / 4 =
      n * 100 + centuries * 25 + leaps := by omega
  have h100 : (n * 400 + centuries * 100 + leaps * 4 + years) / 100 = n * 4 + centuries := by omega
  have h400 : (n * 400 + centuries * 100 + leaps * 4 + years) / 400 = n := by omega
  rw [daysBeforeYear, Nat.add_sub_cancel, h4, h100, h400]
  omega

/-- The last year of four and the last one of 400 are leap years. -/
theorem isLeap_last {n centuries leaps : Nat} (hleaps : leaps < 25)
    (h : leaps = 24 → centuries = 3) :
    isLeap (n * 400 + centuries * 100 + leaps * 4 + 3 + 1) = true := by
  rw [isLeap_eq_true_iff]
  omega

/-- A day lies in its year. -/
theorem yearOf_eq {number year days : Nat} (h : number < dayCount)
    (hyear : yearOf number = (year, days)) :
    1 ≤ year ∧ year ≤ 9999 ∧ days < yearLength year ∧ daysBeforeYear year + days = number := by
  have hcount : number < 3652059 := h
  rw [yearOf] at hyear
  -- `omega` knows the remainders by the quotients, which get names for the cases below
  generalize hn : number / 146097 = n at hyear
  generalize hcenturies : number % 146097 / 36524 = centuries at hyear
  generalize hleaps : number % 146097 % 36524 / 1461 = leaps at hyear
  generalize hyears : number % 146097 % 36524 % 1461 / 365 = years at hyear
  split at hyear
  · next hlast =>
    -- the last day of a leap year, which is the last one of its period
    obtain ⟨rfl, rfl⟩ := Prod.mk.inj hyear
    obtain ⟨c, l, hc, hl, hlc, heq⟩ : ∃ c l, c < 4 ∧ l < 25 ∧ (l = 24 → c = 3) ∧
        n * 400 + centuries * 100 + leaps * 4 + years = n * 400 + c * 100 + l * 4 + 3 + 1 := by
      rcases hlast with hlast | hlast
      · exact ⟨3, 24, by omega, by omega, by omega, by omega⟩
      · exact ⟨centuries, leaps, by omega, by omega, by omega, by omega⟩
    rw [heq, yearLength_eq, isLeap_last hl hlc, daysBeforeYear_eq n hc hl (by omega)]
    simp only [if_true]
    omega
  · next hlast =>
    obtain ⟨rfl, rfl⟩ := Prod.mk.inj hyear
    rw [daysBeforeYear_eq n (by omega) (by omega) (by omega), yearLength_eq]
    refine ⟨by omega, by omega, ?_, by omega⟩
    split <;> omega

/-! ## Months -/

/-- A day lies in its period. -/
theorem splitDays_eq {lengths : List Nat} {n i rest : Nat} (h : n < total lengths)
    (hsplit : splitDays lengths n = (i, rest)) :
    i < lengths.length ∧ rest < lengths.getD i 0 ∧ total (lengths.take i) + rest = n := by
  induction lengths generalizing n i with
  | nil => exact absurd h (Nat.not_lt_zero n)
  | cons length lengths ih =>
    rw [splitDays] at hsplit
    by_cases hfirst : n < length
    · rw [if_pos hfirst] at hsplit
      obtain ⟨rfl, rfl⟩ := Prod.mk.inj hsplit
      simp [hfirst, total]
    · rw [if_neg hfirst] at hsplit
      obtain ⟨rfl, rfl⟩ := Prod.mk.inj hsplit
      rw [total] at h
      obtain ⟨hi, hrest, hsum⟩ := @ih (n - length) _ (by omega) rfl
      simp only [List.length_cons, List.getD_cons_succ, List.take_succ_cons, total]
      exact ⟨by omega, hrest, by omega⟩

theorem length_monthLengths (leap : Bool) : (monthLengths leap).length = 12 := rfl

theorem daysInMonth_le (year month : Nat) : daysInMonth year month ≤ 31 := by
  rw [daysInMonth]
  have hall : ∀ leap, ∀ length ∈ monthLengths leap, length ≤ 31 := by decide
  rw [List.getD_eq_getElem?_getD]
  cases hmonth : (monthLengths (isLeap year))[month - 1]? with
  | none => exact Nat.zero_le 31
  | some length => exact hall _ length (List.mem_of_getElem? hmonth)

/-! ## Dates -/

/-- **A day has a date.** -/
theorem dateOf_isDate {number year month day : Nat} (h : number < dayCount)
    (hdate : dateOf number = (year, month, day)) :
    IsDate year month day ∧ dayNumber year month day = number := by
  rcases hyear : yearOf number with ⟨y, days⟩
  obtain ⟨hpos, hle, hdays, hnumber⟩ := yearOf_eq h hyear
  rcases hsplit : splitDays (monthLengths (isLeap y)) days with ⟨m, d⟩
  obtain ⟨hm, hd, hsum⟩ := splitDays_eq hdays hsplit
  rw [length_monthLengths] at hm
  simp only [dateOf, hyear, hsplit, Prod.mk.injEq] at hdate
  obtain ⟨rfl, rfl, rfl⟩ := hdate
  refine ⟨⟨hpos, hle, by omega, by omega, by omega, hd⟩, ?_⟩
  rw [dayNumber, Nat.add_sub_cancel, Nat.add_sub_cancel, foldl_eq_total, Nat.zero_add,
    Nat.add_assoc, hsum]
  exact hnumber

end SessionGate.Calendar

/-- The day of a moment is one of the calendar. -/
theorem SessionGate.Moment.day_lt (m : Moment) : m.wall / microsPerDay < Calendar.dayCount := by
  have hlt := m.wall_lt
  rw [Nat.mul_comm] at hlt
  exact Nat.div_lt_of_lt_mul hlt
