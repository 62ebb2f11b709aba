import Mathlib.Data.List.TakeWhile
import SessionGate.Json.Printer
import SessionGate.Json.Reader
import SessionGate.Proofs.Ascii
import SessionGate.Proofs.CodePoints
import SessionGate.Proofs.ShortestDigits

/-!
# Numbers read back

Numbers are read back from their texts: an integer of not too many digits, `scalar_printInt`, and
every double, `scalar_toDecimal`. A text stands in front of what may follow a value, so that it
ends.

## Layouts of doubles

The digits of a double are laid out in one of four ways. `denotes_place` says of all of them that
they stand for the same number, with digits and exponent shifted against each other, and that it
rounds to the double is what the digits were chosen for.
-/

namespace SessionGate.Json

open Text CodePoint

variable {rest : List Char}

/-! ## Numbers -/

/-- A text goes on with what may follow a value. -/
def EndsValue (rest : List Char) : Prop :=
  ∀ c ∈ rest.head?, c = ',' ∨ c = ']' ∨ c = '\x7d'

theorem endsValue_nil : EndsValue [] :=
  fun _ h ↦ (nomatch h)

theorem EndsValue.digitFree (h : EndsValue rest) : DigitFree rest := by
  intro c hc
  rcases h c hc with rfl | rfl | rfl <;> rfl

theorem EndsValue.fractionPart_eq (h : EndsValue rest) : fractionPart rest = ([], rest) := by
  unfold fractionPart
  split
  · rcases h '.' rfl with h | h | h <;> cases h
  · rfl

theorem EndsValue.exponentPart_eq (h : EndsValue rest) : exponentPart rest = (none, rest) := by
  have hletter {c : Char} {more : List Char} (hrest : rest = c :: more) : ¬(c = 'e' ∨ c = 'E') := by
    rcases h c (by rw [hrest]; rfl) with rfl | rfl | rfl <;> decide
  unfold exponentPart
  split
  · rw [if_neg (hletter rfl)]
  · rw [if_neg (hletter rfl)]
  · rw [if_neg (hletter rfl)]
  · rfl

/-- The digits of a number begin with a zero if there is no other. -/
theorem toDigits_head (n : Nat) :
    ∃ d ds, Nat.toDigits 10 n = d :: ds ∧ d.isDigit = true ∧ (d = '0' → ds = []) := by
  induction n using Nat.strongRecOn with
  | ind n ih =>
    by_cases h : n < 10
    · refine ⟨Nat.digitChar n, [], Nat.toDigits_of_lt_base h, ?_, fun _ ↦ rfl⟩
      rw [Nat.isDigit_digitChar, decide_eq_true h]
    · obtain ⟨d, ds, hdigits, hdigit, hzero⟩ := ih (n / 10) (by omega)
      refine ⟨d, ds ++ [Nat.digitChar (n % 10)], ?_, hdigit, ?_⟩
      · rw [Nat.toDigits_of_base_le (by decide) (Nat.not_lt.mp h), hdigits, List.cons_append]
      · rintro rfl
        have hvalue := digitsValue_toDigits (n / 10)
        rw [hdigits, hzero rfl] at hvalue
        have hpositive : 0 < n / 10 := by omega
        rw [← hvalue] at hpositive
        exact absurd hpositive (by decide)

/-- The first letter of a number is a digit, and so no other letter. -/
theorem ne_of_isDigit {c d : Char} (hd : d.isDigit = true) (hc : c.isDigit = false) : d ≠ c := by
  rintro rfl
  rw [hc] at hd
  cases hd

/-- A number of few digits has few enough. -/
theorem lt_pow_of_lt_pow {n few width : Nat} (hwidth : few ≤ width) (h : n < 10 ^ few) :
    n < Nat.pow 10 width :=
  Nat.lt_of_lt_of_le h (Nat.pow_le_pow_right (by decide) hwidth)

theorem lt_pow_of_lt_ten {n width : Nat} (hwidth : 0 < width) (h : n < 10) :
    n < Nat.pow 10 width :=
  lt_pow_of_lt_pow hwidth h

/-- The digits are the whole part of a number. -/
def IsWhole (ws : List Char) : Prop :=
  (∀ c ∈ ws, c.isDigit = true) ∧ ∃ d ds, ws = d :: ds ∧ (d = '0' → ds = [])

theorem wholePart?_append {ws : List Char} (hws : IsWhole ws) (hrest : DigitFree rest) :
    wholePart? (ws ++ rest) = some (ws, rest) := by
  obtain ⟨hdigits, d, ds, rfl, hzero⟩ := hws
  have hspan := spanDigits_append hdigits hrest
  unfold wholePart?
  -- a first digit 0 is the whole number, since no other number begins with one
  split
  · next after heq =>
    cases heq
    rw [hzero rfl]
    rfl
  · rw [hspan]

theorem isWhole_toDigits (n : Nat) : IsWhole (Nat.toDigits 10 n) := by
  obtain ⟨d, ds, hhead, -, hzero⟩ := toDigits_head n
  exact ⟨fun c hc ↦ Nat.isDigit_of_mem_toDigits (by decide) (by decide) hc, d, ds, hhead, hzero⟩

theorem unsignedNumber_toDigits {n : Nat} (negative : Bool)
    (hn : n < Nat.pow 10 Text.digitLimit) (hrest : EndsValue rest) :
    unsignedNumber negative (Nat.toDigits 10 n ++ rest) =
      .ok (.int (if negative then -n else n), rest) := by
  have hlength : (Nat.toDigits 10 n).length ≤ Text.digitLimit := length_toDigits_le (by decide) hn
  have hfew : ¬Text.digitLimit < (Nat.toDigits 10 n).length := Nat.not_lt.mpr hlength
  rw [unsignedNumber, wholePart?_append (isWhole_toDigits n) hrest.digitFree]
  simp only [hrest.fractionPart_eq, hrest.exponentPart_eq, List.isEmpty_nil, Option.isNone_none,
    Bool.and_self, if_true, if_neg hfew, digitsValue_toDigits]

/-! ## Signs -/

/-- Digits with a sign if they are negative. -/
def withSign (negative : Bool) (cs : List Char) : List Char :=
  if negative then '-' :: cs else cs

/-- A text begins as a number. -/
def StartsNumber (cs : List Char) : Prop :=
  ∃ negative d more, d.isDigit = true ∧ cs = withSign negative (d :: more)

theorem IsWhole.startsNumber {ws : List Char} (hws : IsWhole ws) (negative : Bool)
    (more : List Char) : StartsNumber (withSign negative (ws ++ more)) := by
  obtain ⟨hdigits, d, ds, rfl, -⟩ := hws
  exact ⟨negative, d, ds ++ more, hdigits d List.mem_cons_self, rfl⟩

/-- A word is read as what it stands for. -/
theorem scalar_word {cs : List Char} {v : Json} (h : word? cs = some (v, rest)) :
    scalar (ofChars cs) = .ok (v, ofChars rest) := by
  rw [scalar, spanChars_ofChars]
  simp only [h, Option.elim_some, List.append_nil]

/-- A text that begins with a digit or a minus and a digit begins with none of the words,
`-Infinity` among them. -/
theorem word?_eq_none {cs : List Char} (h : StartsNumber cs) : word? cs = none := by
  obtain ⟨negative, d, more, hdigit, rfl⟩ := h
  have hno {c : Char} (hc : c.isDigit = false) : c ≠ d := (ne_of_isDigit hdigit hc).symm
  rw [word?, List.findSome?_eq_none_iff]
  unfold withSign
  split
  · simp [wordValues, afterWord?, hno]
  · simp [wordValues, afterWord?, hno]

/-- The sign of a number is read before its digits. -/
theorem scalar_withSign {cs : List Char} {negative : Bool} {v : Json}
    (hcs : ∃ d more, cs = d :: more ∧ d.isDigit = true)
    (h : unsignedNumber negative cs = .ok (v, rest)) :
    scalar (ofChars (withSign negative cs)) = .ok (v, ofChars rest) := by
  obtain ⟨d, more, rfl, hdigit⟩ := hcs
  have hnumber : number (withSign negative (d :: more)) = .ok (v, rest) := by
    rw [← h]
    cases negative with
    | true => rfl
    | false =>
      rw [withSign, if_neg Bool.false_ne_true, number]
      rintro more heq
      cases heq
      cases hdigit
  rw [scalar, spanChars_ofChars]
  simp only [word?_eq_none ⟨negative, d, more, hdigit, rfl⟩, Option.elim_none, hnumber,
    List.append_nil]

theorem printInt_eq (n : Int) :
    printInt n = withSign (decide (n < 0)) (Nat.toDigits 10 n.natAbs) := by
  rw [printInt, withSign]
  simp only [decide_eq_true_eq]

theorem withSign_append (negative : Bool) (cs rest : List Char) :
    withSign negative cs ++ rest = withSign negative (cs ++ rest) := by
  cases negative <;> rfl

theorem startsNumber_printInt (n : Int) (rest : List Char) : StartsNumber (printInt n ++ rest) := by
  rw [printInt_eq, withSign_append]
  exact (isWhole_toDigits _).startsNumber _ _

/-- **An integer is read back from its text.** -/
theorem scalar_printInt {n : Int} (hn : n.natAbs < Nat.pow 10 Text.digitLimit)
    (hrest : EndsValue rest) :
    scalar (ofChars (printInt n ++ rest)) = .ok (.int n, ofChars rest) := by
  obtain ⟨d, ds, hhead, hdigit, -⟩ := toDigits_head n.natAbs
  rw [printInt_eq, withSign_append, scalar_withSign ⟨d, ds ++ rest, by rw [hhead]; rfl, hdigit⟩
    (unsignedNumber_toDigits _ hn hrest)]
  by_cases hsign : n < 0
  · have hvalue : -(n.natAbs : Int) = n := by omega
    simp only [decide_eq_true hsign, if_true, hvalue]
  · have hvalue : (n.natAbs : Int) = n := by omega
    simp only [decide_eq_false hsign, Bool.false_eq_true, if_false, hvalue]

/-! ## Decimals -/

theorem fractionPart_append {fs : List Char} (hne : fs ≠ []) (hfs : ∀ c ∈ fs, c.isDigit = true)
    (hrest : DigitFree rest) : fractionPart ('.' :: fs ++ rest) = (fs, rest) := by
  rw [List.cons_append, fractionPart, spanDigits_append hfs hrest]
  split
  · next heq => exact absurd (congrArg Prod.fst heq) hne
  · next heq =>
    cases heq
    rfl

def exponentText (e : Int) : List Char :=
  'e' :: (if e < 0 then '-' else '+') :: paddedDigits 2 e.natAbs

theorem exponentPart_append (e : Int) (hrest : DigitFree rest) :
    exponentPart (exponentText e ++ rest) = (some e, rest) := by
  have hspan : spanDigits (paddedDigits 2 e.natAbs ++ rest) = (paddedDigits 2 e.natAbs, rest) :=
    spanDigits_append (fun c hc ↦ isDigit_of_mem_paddedDigits hc) hrest
  have hne : paddedDigits 2 e.natAbs ≠ [] := by
    intro h
    have hpositive : 0 < (Nat.toDigits 10 e.natAbs).length := Nat.length_toDigits_pos
    rw [paddedDigits, List.append_eq_nil_iff] at h
    rw [h.2] at hpositive
    exact absurd hpositive (by decide)
  have hvalue := digitsValue_paddedDigits 2 e.natAbs
  rw [exponentText]
  generalize paddedDigits 2 e.natAbs = es at hspan hne hvalue
  obtain ⟨d, ds, rfl⟩ := List.exists_cons_of_ne_nil hne
  rw [List.cons_append] at hspan
  by_cases hsign : e < 0
  · simp [exponentPart, hsign, hspan, hvalue, abs_of_neg hsign]
  · simp [exponentPart, hsign, hspan, hvalue, abs_of_nonneg (not_lt.mp hsign)]

/-- The text of a decimal: a whole part, and a fraction or an exponent or both. -/
structure IsDecimal (text ws fs : List Char) (e : Option Int) : Prop where
  whole : IsWhole ws
  fraction : ∀ c ∈ fs, c.isDigit = true
  more : fs ≠ [] ∨ e ≠ none
  text_eq : text = ws ++ ((if fs = [] then [] else '.' :: fs) ++ e.elim [] exponentText)

theorem IsDecimal.head {text ws fs : List Char} {e : Option Int} (h : IsDecimal text ws fs e) :
    ∃ d more, text = d :: more ∧ d.isDigit = true := by
  obtain ⟨⟨hdigits, d, ds, rfl, -⟩, -, -, rfl⟩ := h
  exact ⟨d, _, rfl, hdigits d List.mem_cons_self⟩

/-- What is not a whole number is read as a decimal. -/
theorem IsDecimal.unsignedNumber_eq {text ws fs : List Char} {negative : Bool}
    {e : Option Int} (h : IsDecimal text ws fs e) (hrest : EndsValue rest) :
    unsignedNumber negative (text ++ rest) =
      .ok (.float (Binary64.ofDecimal negative (digitsValue (ws ++ fs))
        (e.getD 0 - fs.length)), rest) := by
  obtain ⟨hws, hfs, hmore, rfl⟩ := h
  have hend : DigitFree (e.elim [] exponentText ++ rest) := by
    cases e with
    | none => exact hrest.digitFree
    | some e =>
      intro c hc
      cases hc
      rfl
  have hexponent : exponentPart (e.elim [] exponentText ++ rest) = (e, rest) := by
    cases e with
    | none => exact hrest.exponentPart_eq
    | some e => exact exponentPart_append e hrest.digitFree
  have hfraction : DigitFree ((if fs = [] then [] else '.' :: fs) ++
      (e.elim [] exponentText ++ rest)) ∧
      fractionPart ((if fs = [] then [] else '.' :: fs) ++ (e.elim [] exponentText ++ rest)) =
        (fs, e.elim [] exponentText ++ rest) := by
    by_cases hne : fs = []
    · obtain ⟨e, rfl⟩ := Option.ne_none_iff_exists'.mp (hmore.resolve_left (absurd hne))
      subst hne
      exact ⟨hend, rfl⟩
    · rw [if_neg hne]
      refine ⟨fun c hc ↦ ?_, fractionPart_append hne hfs hend⟩
      cases hc
      rfl
  have hdecimal : ¬(fs.isEmpty && e.isNone) = true := by
    rw [Bool.and_eq_true, List.isEmpty_iff, Option.isNone_iff_eq_none]
    exact fun hno ↦ hmore.elim (absurd hno.1) (absurd hno.2)
  rw [unsignedNumber, List.append_assoc, List.append_assoc,
    wholePart?_append hws hfraction.1]
  simp only [hfraction.2, hexponent, if_neg hdecimal]

/-- The text of a decimal stands for a number. -/
def Denotes (text : List Char) (x : ℚ) : Prop :=
  ∃ ws fs e, IsDecimal text ws fs e ∧
    (digitsValue (ws ++ fs) : ℚ) * 10 ^ (e.getD 0 - fs.length : ℤ) = x

/-! ## Layouts -/

/-- Digits that do not begin with a zero. -/
def IsLeading (ds : List Char) : Prop :=
  (∀ c ∈ ds, c.isDigit = true) ∧ ∃ d rest, ds = d :: rest ∧ d ≠ '0'

theorem isDigit_of_mem_zeros {k : Nat} : ∀ c ∈ List.replicate k '0', c.isDigit = true := by
  intro c hc
  rw [List.eq_of_mem_replicate hc]
  rfl

section Place

variable {ds : List Char}

/-- One digit, the others as a fraction, and an exponent. -/
theorem denotes_scientific (hds : IsLeading ds) (point : Int) :
    Denotes (ds.take 1 ++ (if ds.length ≤ 1 then [] else '.' :: ds.drop 1) ++
      exponentText (point - 1)) (digitsValue ds * 10 ^ (point - ds.length)) := by
  obtain ⟨hdigits, d, more, rfl, -⟩ := hds
  obtain ⟨hdigit, hmore⟩ := List.forall_mem_cons.mp hdigits
  refine ⟨[d], more, some (point - 1), ⟨?_, hmore, .inr (by simp), ?_⟩, ?_⟩
  · exact ⟨List.forall_mem_singleton.mpr hdigit, d, [], rfl, fun _ ↦ rfl⟩
  · cases more <;> simp
  · rw [List.length_cons, Option.getD_some, List.singleton_append]
    congr 2
    omega

/-- Zeros after the point. -/
theorem denotes_zeros_append (hds : IsLeading ds) (k : Nat) :
    Denotes ('0' :: '.' :: List.replicate k '0' ++ ds)
      (digitsValue ds * 10 ^ (-(k : ℤ) - ds.length)) := by
  obtain ⟨hdigits, d, more, rfl, -⟩ := hds
  refine ⟨['0'], List.replicate k '0' ++ d :: more, none, ⟨?_, ?_, .inl (by simp), ?_⟩, ?_⟩
  · exact ⟨List.forall_mem_singleton.mpr rfl, '0', [], rfl, fun _ ↦ rfl⟩
  · exact List.forall_mem_append.mpr ⟨isDigit_of_mem_zeros, hdigits⟩
  · simp
  · rw [← List.append_assoc, show ['0'] = List.replicate 1 '0' from rfl,
      List.replicate_append_replicate, digitsValue_zeros_append, List.length_append,
      List.length_replicate, Option.getD_none]
    congr 2
    omega

/-- Zeros before the point. -/
theorem denotes_append_zeros (hds : IsLeading ds) (k : Nat) :
    Denotes (ds ++ List.replicate k '0' ++ ['.', '0']) (digitsValue ds * 10 ^ (k : ℤ)) := by
  obtain ⟨hdigits, d, more, rfl, hd⟩ := hds
  refine ⟨d :: more ++ List.replicate k '0', ['0'], none, ⟨?_, ?_, .inl (by simp), ?_⟩, ?_⟩
  · exact ⟨List.forall_mem_append.mpr ⟨hdigits, isDigit_of_mem_zeros⟩, d, _, rfl,
      fun h ↦ absurd h hd⟩
  · exact List.forall_mem_singleton.mpr rfl
  · simp
  · rw [List.append_assoc, show ['0'] = List.replicate 1 '0' from rfl,
      List.replicate_append_replicate, digitsValue_append_zeros, zpow_natCast, Option.getD_none]
    push_cast
    rw [List.length_singleton, pow_succ]
    norm_num
    ring

/-- The point among the digits. -/
theorem denotes_split (hds : IsLeading ds) {k : Nat} (hk : k ≠ 0) (hlong : k < ds.length) :
    Denotes (ds.take k ++ '.' :: ds.drop k) (digitsValue ds * 10 ^ ((k : ℤ) - ds.length)) := by
  obtain ⟨hdigits, d, more, rfl, hd⟩ := hds
  have hdrop : (d :: more).drop k ≠ [] := by
    rw [Ne, List.drop_eq_nil_iff, not_le]
    exact hlong
  have hfirst : (d :: more).take k = d :: more.take (k - 1) := by
    obtain ⟨i, rfl⟩ := Nat.exists_eq_succ_of_ne_zero hk
    rfl
  refine ⟨(d :: more).take k, (d :: more).drop k, none,
    ⟨⟨?_, d, _, hfirst, fun h ↦ absurd h hd⟩, ?_, .inl hdrop, ?_⟩, ?_⟩
  · exact fun c hc ↦ hdigits c (List.mem_of_mem_take hc)
  · exact fun c hc ↦ hdigits c (List.mem_of_mem_drop hc)
  · rw [if_neg hdrop, Option.elim_none, List.append_nil]
  · rw [List.take_append_drop, List.length_drop, Option.getD_none]
    congr 2
    omega

/-- Digits laid out are the text of the decimal they stand for. -/
theorem denotes_place (hds : IsLeading ds) (point : Int) :
    Denotes (numberLayout.place ds point) (digitsValue ds * 10 ^ (point - ds.length)) := by
  rw [DecimalLayout.place]
  split
  · exact denotes_scientific hds point
  · split
    · next hpoint =>
      obtain ⟨k, hk⟩ := Int.eq_ofNat_of_zero_le (by omega : 0 ≤ -point)
      obtain rfl : point = -k := by omega
      rw [neg_neg, Int.toNat_natCast]
      exact denotes_zeros_append hds k
    · next hpoint =>
      obtain ⟨k, rfl⟩ := Int.eq_ofNat_of_zero_le (by omega : 0 ≤ point)
      rw [Int.toNat_natCast]
      split
      · next hshort =>
        rw [← Nat.cast_sub hshort]
        exact denotes_append_zeros hds (k - ds.length)
      · next hlong => exact denotes_split hds (by omega) (Nat.not_le.mp hlong)

end Place

/-! ## Doubles -/

/-- What is kept of digits and the zeros that are dropped make up the digits. -/
theorem stripZeros_append (ds : List Char) :
    (stripZeros ds).1 ++ List.replicate (stripZeros ds).2 '0' = ds := by
  rw [stripZeros]
  generalize htail : (ds.reverse.takeWhile (· == '0')).reverse = tail
  generalize hkept : (ds.reverse.dropWhile (· == '0')).reverse = kept
  have hsplit : ds = kept ++ tail := by
    rw [← hkept, ← htail, ← List.reverse_append, List.takeWhile_append_dropWhile,
      List.reverse_reverse]
  have hzeros : tail = List.replicate tail.length '0' := by
    refine List.eq_replicate_iff.mpr ⟨rfl, fun c hc ↦ ?_⟩
    rw [← htail, List.mem_reverse] at hc
    exact eq_of_beq (List.mem_takeWhile_imp (p := (· == '0')) hc)
  rw [hsplit, List.length_append, Nat.add_sub_cancel_left, ← hzeros]

/-- A power of ten makes up for the zeros that are dropped. -/
theorem digitsValue_stripZeros (ds : List Char) :
    digitsValue (stripZeros ds).1 * 10 ^ (stripZeros ds).2 = digitsValue ds := by
  rw [← digitsValue_append_zeros, stripZeros_append]

theorem isLeading_stripZeros {ds : List Char} (hds : IsLeading ds) :
    IsLeading (stripZeros ds).1 := by
  obtain ⟨hdigits, d, more, hhead, hd⟩ := hds
  have hsplit := stripZeros_append ds
  generalize (stripZeros ds).1 = kept at hsplit ⊢
  generalize (stripZeros ds).2 = dropped at hsplit
  subst hsplit
  refine ⟨fun c hc ↦ hdigits c (List.mem_append_left _ hc), ?_⟩
  cases kept with
  | nil =>
    -- all digits would be zeros, the first one among them
    have hmem : d ∈ List.replicate dropped '0' := by
      rw [← List.nil_append (List.replicate dropped '0'), hhead]
      exact List.mem_cons_self
    exact absurd (List.eq_of_mem_replicate hmem) hd
  | cons c rest =>
    cases hhead
    exact ⟨d, rest, rfl, hd⟩

theorem isLeading_toDigits {n : Nat} (hn : n ≠ 0) : IsLeading (Nat.toDigits 10 n) := by
  obtain ⟨d, ds, hhead, -, hzero⟩ := toDigits_head n
  refine ⟨fun c hc ↦ Nat.isDigit_of_mem_toDigits (by decide) (by decide) hc, d, ds, hhead, ?_⟩
  rintro rfl
  have hvalue := digitsValue_toDigits n
  rw [hhead, hzero rfl] at hvalue
  exact hn hvalue.symm

/-- The text of a double without its sign. -/
def magnitude (m : Nat) (e : Int) : List Char :=
  if m = 0 then numberLayout.place ['0'] 1
  else
    let (ds, dropped) := stripZeros (Nat.toDigits 10 (Binary64.shortest m e).1)
    numberLayout.place ds ((Binary64.shortest m e).2 + dropped + ds.length)

theorem toDecimal_finite (negative : Bool) (m : Nat) (e : Int) :
    ((Binary64.finite negative m e).toDecimal numberLayout).toList =
      withSign negative (magnitude m e) := by
  have hdigits : (Binary64.finite negative m e).toDecimal numberLayout =
      (if negative then "-" else "") ++ String.ofList (magnitude m e) := rfl
  rw [hdigits, String.toList_append, String.toList_ofList]
  cases negative <;> rfl

/-- The text of a double is that of a decimal, and it rounds to the double. -/
theorem isDecimal_magnitude {negative : Bool} {m : Nat} {e : Int}
    (hcanonical : (Binary64.finite negative m e).IsCanonical) :
    ∃ ws fs exponent, IsDecimal (magnitude m e) ws fs exponent ∧
      Binary64.ofDecimal negative (digitsValue (ws ++ fs)) (exponent.getD 0 - fs.length) =
        .finite negative m e := by
  rw [magnitude]
  split
  · next hm =>
    subst hm
    have hleast : e = Binary64.minExponent := hcanonical.2.2.2.resolve_left (by decide)
    subst hleast
    refine ⟨['0'], ['0'], none, ⟨⟨?_, '0', [], rfl, fun _ ↦ rfl⟩, ?_, .inl (by simp), rfl⟩, rfl⟩
    · exact List.forall_mem_singleton.mpr rfl
    · exact List.forall_mem_singleton.mpr rfl
  · next hm =>
    have hrounds := Binary64.rounds_shortest (e := e) hm hcanonical.1
    have hc : (Binary64.shortest m e).1 ≠ 0 := by
      intro hzero
      have hpos := hrounds.pos hm
      rw [hzero] at hpos
      exact absurd hpos (by simp)
    have hvalue := digitsValue_stripZeros (Nat.toDigits 10 (Binary64.shortest m e).1)
    obtain ⟨ws, fs, exponent, hdecimal, hplace⟩ := denotes_place
      (isLeading_stripZeros (isLeading_toDigits hc))
      ((Binary64.shortest m e).2 + (stripZeros (Nat.toDigits 10 (Binary64.shortest m e).1)).2 +
        (stripZeros (Nat.toDigits 10 (Binary64.shortest m e).1)).1.length)
    refine ⟨ws, fs, exponent, hdecimal, Binary64.ofDecimal_of_rounds hcanonical hm ?_⟩
    rw [digitsValue_toDigits] at hvalue
    rw [hplace, add_sub_cancel_right, zpow_add₀ (by norm_num), mul_comm (10 ^ _), ← mul_assoc,
      zpow_natCast]
    rw [← hvalue] at hrounds
    exact_mod_cast hrounds

/-- **A double is read back from its text.** -/
theorem scalar_toDecimal {x : Binary64} (hx : x.IsCanonical) (hrest : EndsValue rest) :
    scalar (ofChars ((x.toDecimal numberLayout).toList ++ rest)) =
      .ok (.float x, ofChars rest) := by
  cases x with
  | nan => exact scalar_word rfl
  | infinite negative =>
    cases negative with
    | true => exact scalar_word rfl
    | false => exact scalar_word rfl
  | finite negative m e =>
    obtain ⟨ws, fs, exponent, hdecimal, hvalue⟩ := isDecimal_magnitude hx
    obtain ⟨d, more, hhead, hdigit⟩ := hdecimal.head
    rw [toDecimal_finite, withSign_append,
      scalar_withSign ⟨d, more ++ rest, by rw [hhead]; rfl, hdigit⟩
        (hdecimal.unsignedNumber_eq hrest), hvalue]

theorem startsNumber_toDecimal {negative : Bool} {m : Nat} {e : Int}
    (hx : (Binary64.finite negative m e).IsCanonical) (rest : List Char) :
    StartsNumber (((Binary64.finite negative m e).toDecimal numberLayout).toList ++ rest) := by
  obtain ⟨ws, fs, exponent, hdecimal, -⟩ := isDecimal_magnitude hx
  obtain ⟨d, more, hhead, hdigit⟩ := hdecimal.head
  rw [toDecimal_finite, withSign_append, hhead]
  exact ⟨negative, d, more ++ rest, hdigit, rfl⟩

/-! ## Letters -/

theorem isAscii_of_isDigit {c : Char} (h : c.isDigit = true) : IsAscii c := by
  obtain ⟨hlow, hhigh⟩ := toNat_of_isDigit h
  exact ⟨by omega, by omega⟩

theorem isAscii_withSign {cs : List Char} (negative : Bool) (hcs : ∀ c ∈ cs, IsAscii c) :
    ∀ c ∈ withSign negative cs, IsAscii c := by
  cases negative with
  | true => exact List.forall_mem_cons.mpr ⟨by decide, hcs⟩
  | false => exact hcs

theorem isAscii_printInt (n : Int) : ∀ c ∈ printInt n, IsAscii c := by
  rw [printInt_eq]
  refine isAscii_withSign _ fun c hc ↦ ?_
  exact isAscii_of_isDigit (Nat.isDigit_of_mem_toDigits (by decide) (by decide) hc)

theorem isAscii_exponentText {e : Int} {c : Char} (h : c ∈ exponentText e) : IsAscii c := by
  rw [exponentText, List.mem_cons, List.mem_cons] at h
  rcases h with rfl | rfl | h
  · decide
  · split <;> decide
  · exact isAscii_of_isDigit (isDigit_of_mem_paddedDigits h)

theorem IsDecimal.isAscii {text ws fs : List Char} {e : Option Int} (h : IsDecimal text ws fs e)
    {c : Char} (hc : c ∈ text) : IsAscii c := by
  obtain ⟨⟨hdigits, -⟩, hfs, -, rfl⟩ := h
  rw [List.mem_append, List.mem_append] at hc
  rcases hc with hc | hc | hc
  · exact isAscii_of_isDigit (hdigits c hc)
  · split at hc
    · cases hc
    · rcases List.mem_cons.mp hc with rfl | hc
      · decide
      · exact isAscii_of_isDigit (hfs c hc)
  · cases e with
    | none => cases hc
    | some e => exact isAscii_exponentText hc

theorem isAscii_toDecimal {x : Binary64} (hx : x.IsCanonical) :
    ∀ c ∈ (x.toDecimal numberLayout).toList, IsAscii c := by
  cases x with
  | nan => exact isAscii_of_all rfl
  | infinite negative => cases negative <;> exact isAscii_of_all rfl
  | finite negative m e =>
    obtain ⟨ws, fs, exponent, hdecimal, -⟩ := isDecimal_magnitude hx
    rw [toDecimal_finite]
    exact isAscii_withSign negative fun c hc ↦ hdecimal.isAscii hc

end SessionGate.Json
