import Mathlib.Algebra.Group.Nat.Defs
import SessionGate.Text.Digits

/-!
# Digits read back

What `paddedDigits` and `Nat.toDigits` write are digits and spell the number they were written for.
The value of digits is `Nat.ofDigitChars` of the standard library, so that most of this is there
already. What a reader needs besides is how many digits there are, and, for a number of two or four
digits, which ones.
-/

namespace SessionGate.Text

theorem digitsValue_eq (ds : List Char) : digitsValue ds = Nat.ofDigitChars 10 ds 0 :=
  Nat.ofDigitChars_eq_foldl.symm

@[simp] theorem digitsValue_toDigits (n : Nat) : digitsValue (Nat.toDigits 10 n) = n := by
  rw [digitsValue_eq, Nat.ofDigitChars_ten_toDigits]

/-- Zeros in front of digits are worth nothing. -/
theorem digitsValue_zeros_append (k : Nat) (ds : List Char) :
    digitsValue (List.replicate k '0' ++ ds) = digitsValue ds := by
  rw [digitsValue_eq, digitsValue_eq, Nat.ofDigitChars_append, Nat.ofDigitChars_replicate_zero,
    Nat.mul_zero]

/-- A zero behind digits makes them worth ten times as much. -/
theorem digitsValue_append_zeros (ds : List Char) (k : Nat) :
    digitsValue (ds ++ List.replicate k '0') = digitsValue ds * 10 ^ k := by
  rw [digitsValue_eq, digitsValue_eq, Nat.ofDigitChars_append, Nat.ofDigitChars_replicate_zero,
    Nat.mul_comm]

theorem asciiDigit?_digitChar {n : Nat} (h : n < 10) : asciiDigit? (Nat.digitChar n) = some n := by
  have hdigit : (Nat.digitChar n).isDigit = true := by rw [Nat.isDigit_digitChar, decide_eq_true h]
  have hvalue : (Nat.digitChar n).toNat - '0'.toNat = n := Nat.toNat_digitChar_sub_48_of_lt_ten h
  rw [asciiDigit?, if_pos hdigit, hvalue]

/-- Digits stand next to each other. -/
theorem toNat_of_isDigit {c : Char} (h : c.isDigit = true) : 48 ≤ c.toNat ∧ c.toNat ≤ 57 := by
  rw [Char.isDigit, Bool.and_eq_true, decide_eq_true_eq, decide_eq_true_eq] at h
  exact ⟨UInt32.le_iff_toNat_le.mp h.1, UInt32.le_iff_toNat_le.mp h.2⟩

theorem ofDigitChars_lt {ds : List Char} (h : ∀ c ∈ ds, c.isDigit = true) (n : Nat) :
    Nat.ofDigitChars 10 ds n < (n + 1) * 10 ^ ds.length := by
  induction ds generalizing n with
  | nil => simp
  | cons c ds ih =>
    obtain ⟨hc, hds⟩ := List.forall_mem_cons.mp h
    have hdigit : c.toNat - '0'.toNat < 10 := by
      have hzero : '0'.toNat = 48 := rfl
      obtain ⟨hlow, hhigh⟩ := toNat_of_isDigit hc
      omega
    rw [Nat.ofDigitChars_cons, List.length_cons, Nat.pow_succ', ← Nat.mul_assoc]
    refine Nat.lt_of_lt_of_le (ih hds _) (Nat.mul_le_mul_right _ ?_)
    omega

/-- Digits are worth less than there are numbers of so many digits. -/
theorem digitsValue_lt {ds : List Char} (h : ∀ c ∈ ds, c.isDigit = true) :
    digitsValue ds < 10 ^ ds.length := by
  have hlt := ofDigitChars_lt h 0
  rwa [Nat.zero_add, Nat.one_mul, ← digitsValue_eq] at hlt

/-! ## Digits in front of a text -/

/-- A text goes on without a digit. -/
def DigitFree (rest : List Char) : Prop :=
  ∀ c ∈ rest.head?, c.isDigit = false

/-- The digits in front of what begins with none are found. -/
theorem spanDigits_append {ds rest : List Char} (hds : ∀ c ∈ ds, c.isDigit = true)
    (hrest : DigitFree rest) : spanDigits (ds ++ rest) = (ds, rest) := by
  rw [spanDigits, List.takeWhile_append_of_pos hds, List.dropWhile_append_of_pos hds]
  cases rest with
  | nil => simp
  | cons c rest =>
    have hc : c.isDigit = false := hrest c rfl
    rw [List.takeWhile_cons, List.dropWhile_cons, hc]
    simp

/-! ## Digits up to a width -/

variable {width n : Nat}

theorem isDigit_of_mem_paddedDigits {c : Char} (h : c ∈ paddedDigits width n) :
    c.isDigit = true := by
  rw [paddedDigits, List.mem_append] at h
  rcases h with h | h
  · rw [List.eq_of_mem_replicate h]
    rfl
  · exact Nat.isDigit_of_mem_toDigits (by decide) (by decide) h

@[simp] theorem digitsValue_paddedDigits (width n : Nat) :
    digitsValue (paddedDigits width n) = n := by
  rw [digitsValue_eq, paddedDigits, Nat.ofDigitChars_append, Nat.ofDigitChars_replicate_zero,
    Nat.mul_zero, Nat.ofDigitChars_ten_toDigits]

theorem length_toDigits_le (hwidth : 0 < width) (h : n < Nat.pow 10 width) :
    (Nat.toDigits 10 n).length ≤ width :=
  (Nat.length_toDigits_le_iff (by decide) hwidth).mpr h

/-- How many digits a number has tells its size. -/
theorem pow_length_toDigits_le (hn : n ≠ 0) : 10 ^ ((Nat.toDigits 10 n).length - 1) ≤ n := by
  by_cases hlength : 0 < (Nat.toDigits 10 n).length - 1
  · exact Nat.not_lt.mp fun hlt ↦ absurd (length_toDigits_le hlength hlt) (by omega)
  · rw [Nat.eq_zero_of_not_pos hlength]
    exact Nat.one_le_iff_ne_zero.mpr hn

theorem lt_pow_length_toDigits (n : Nat) : n < 10 ^ (Nat.toDigits 10 n).length :=
  (Nat.length_toDigits_le_iff (by decide) Nat.length_toDigits_pos).mp (Nat.le_refl _)

theorem length_paddedDigits (hwidth : 0 < width) (h : n < Nat.pow 10 width) :
    (paddedDigits width n).length = width := by
  have hlength := length_toDigits_le hwidth h
  rw [paddedDigits, List.length_append, List.length_replicate]
  omega

/-- The last digit is the remainder. -/
theorem paddedDigits_succ (width n : Nat) :
    paddedDigits (width + 2) n =
      paddedDigits (width + 1) (n / 10) ++ [Nat.digitChar (n % 10)] := by
  by_cases h : n < 10
  · have hzero : n / 10 = 0 := Nat.div_eq_of_lt h
    rw [paddedDigits, Nat.toDigits_of_lt_base h, paddedDigits, hzero, Nat.toDigits_zero,
      Nat.mod_eq_of_lt h]
    change List.replicate (width + 1) '0' ++ _ = List.replicate width '0' ++ ['0'] ++ _
    rw [List.replicate_succ']
  · have hzeros : width + 2 - ((Nat.toDigits 10 (n / 10)).length + 1) =
        width + 1 - (Nat.toDigits 10 (n / 10)).length := by omega
    rw [paddedDigits, Nat.toDigits_of_base_le (by decide) (Nat.not_lt.mp h), paddedDigits,
      List.length_append, List.length_singleton, hzeros, List.append_assoc]

theorem paddedDigits_one (h : n < 10) : paddedDigits 1 n = [Nat.digitChar n] := by
  rw [paddedDigits, Nat.toDigits_of_lt_base h]
  rfl

theorem paddedDigits_two (h : n < 100) :
    paddedDigits 2 n = [Nat.digitChar (n / 10), Nat.digitChar (n % 10)] := by
  rw [paddedDigits_succ, paddedDigits_one (by omega)]
  rfl

theorem paddedDigits_four (h : n < 10000) :
    paddedDigits 4 n = [Nat.digitChar (n / 100 / 10), Nat.digitChar (n / 100 % 10),
      Nat.digitChar (n % 100 / 10), Nat.digitChar (n % 100 % 10)] := by
  have htens : n / 10 % 10 = n % 100 / 10 := by omega
  have hones : n % 10 = n % 100 % 10 := by omega
  have hhundreds : n / 10 / 10 = n / 100 := Nat.div_div_eq_div_mul n 10 10
  rw [paddedDigits_succ, paddedDigits_succ, hhundreds, paddedDigits_two (by omega), htens, hones]
  rfl

end SessionGate.Text
