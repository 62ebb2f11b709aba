import SessionGate.Proofs.Ascii
import SessionGate.Proofs.Calendar
import SessionGate.Proofs.MomentTexts

/-!
# Moments read back from records

`Moment.readIso` reads many forms of one moment, and `Moment.iso` writes one of them. This one is
read as the moment it was written for, if the offset is one that a text can tell: less than a day,
and no mere fraction of a second, since a reader that finds zero seconds takes the clock for one of
universal time. `Moment.IsTold` says so. Whatever is read has such an offset, so that the texts of
all forms come down to one that is read as what they are read as: `Moment.readIso_iso_iff`.

## Bytes

The text is ASCII and the reader works on bytes, of which it looks at those ahead as well. So the
lemma about each part of the text is about the bytes of this part with whatever follows it.
-/

namespace SessionGate

open Text

namespace Moment

/-- The offset, if there is one, is less than a day and no mere fraction of a second. -/
def IsTold (m : Moment) : Prop :=
  ∀ offset ∈ m.offset,
    offset.natAbs < microsPerDay ∧ (offset = 0 ∨ microsPerSecond ≤ offset.natAbs)

theorem IsTold.natAbs_lt {m : Moment} (h : m.IsTold) : (m.offset.getD 0).natAbs < microsPerDay := by
  cases hm : m.offset with
  | none => decide
  | some offset => exact (h offset hm).1

/-! ## Bytes of digits -/

theorem encodeUtf8_cons_of_ascii {c : Char} (h : c.toNat < 0x80) (cs : List Char) :
    encodeUtf8 (c :: cs) = c.toNat.toUInt8 :: encodeUtf8 cs := by
  rw [encodeUtf8, List.flatMap_cons, charBytes, if_pos h]
  rfl

theorem encodeUtf8_append (cs ds : List Char) :
    encodeUtf8 (cs ++ ds) = encodeUtf8 cs ++ encodeUtf8 ds :=
  List.flatMap_append

theorem toNat_lt_of_isDigit {c : Char} (h : c.isDigit = true) : c.toNat < 0x80 := by
  obtain ⟨-, hhigh⟩ := toNat_of_isDigit h
  omega

theorem digitByte?_of_isDigit {c : Char} (h : c.isDigit = true) :
    digitByte? c.toNat.toUInt8 = some (c.toNat - '0'.toNat) := by
  obtain ⟨hlow, hhigh⟩ := toNat_of_isDigit h
  have hsize : c.toNat < 256 := by omega
  have hvalue : c.toNat.toUInt8.toNat = c.toNat := UInt8.toNat_ofNat_of_lt' hsize
  have hrange : 48 ≤ c.toNat.toUInt8 ∧ c.toNat.toUInt8 ≤ 57 := by
    rw [UInt8.le_iff_toNat_le, UInt8.le_iff_toNat_le, hvalue]
    exact ⟨hlow, hhigh⟩
  rw [digitByte?, if_pos hrange, hvalue]
  rfl

variable {ds : List Char}

theorem length_encodeUtf8_digits (h : ∀ c ∈ ds, c.isDigit = true) :
    (encodeUtf8 ds).length = ds.length := by
  induction ds with
  | nil => rfl
  | cons c ds ih =>
    obtain ⟨hc, hds⟩ := List.forall_mem_cons.mp h
    rw [encodeUtf8_cons_of_ascii (toNat_lt_of_isDigit hc), List.length_cons, List.length_cons,
      ih hds]

theorem takeDigits_digits (h : ∀ c ∈ ds, c.isDigit = true) (acc : Nat) (rest : Bytes) :
    takeDigits acc ds.length (encodeUtf8 ds ++ rest) = some (Nat.ofDigitChars 10 ds acc, rest) := by
  induction ds generalizing acc with
  | nil => rfl
  | cons c ds ih =>
    obtain ⟨hc, hds⟩ := List.forall_mem_cons.mp h
    rw [encodeUtf8_cons_of_ascii (toNat_lt_of_isDigit hc), List.cons_append, List.length_cons,
      takeDigits, digitByte?_of_isDigit hc, Option.bind_some, ih hds, Nat.ofDigitChars_cons,
      Nat.mul_comm acc]

variable {width n : Nat}

theorem length_encodeUtf8_paddedDigits (hwidth : 0 < width) (h : n < Nat.pow 10 width) :
    (encodeUtf8 (paddedDigits width n)).length = width := by
  rw [length_encodeUtf8_digits fun c hc ↦ isDigit_of_mem_paddedDigits hc,
    length_paddedDigits hwidth h]

/-- A number is read from its digits. -/
theorem takeDigits_paddedDigits (hwidth : 0 < width) (h : n < Nat.pow 10 width) (rest : Bytes) :
    takeDigits 0 width (encodeUtf8 (paddedDigits width n) ++ rest) = some (n, rest) := by
  have hdigits : ∀ c ∈ paddedDigits width n, c.isDigit = true :=
    fun c hc ↦ isDigit_of_mem_paddedDigits hc
  have htake := takeDigits_digits hdigits 0 rest
  rw [length_paddedDigits hwidth h, ← digitsValue_eq, digitsValue_paddedDigits] at htake
  exact htake

/-- What begins with digits begins with no other byte. -/
theorem head?_paddedDigits_ne (hwidth : 0 < width) (h : n < Nat.pow 10 width) {b : UInt8}
    (hb : digitByte? b = none) (rest : Bytes) :
    (encodeUtf8 (paddedDigits width n) ++ rest).head? ≠ some b := by
  have hlength : (paddedDigits width n).length = width := length_paddedDigits hwidth h
  have hdigits : ∀ c ∈ paddedDigits width n, c.isDigit = true :=
    fun c hc ↦ isDigit_of_mem_paddedDigits hc
  cases hds : paddedDigits width n with
  | nil =>
    rw [hds, List.length_nil] at hlength
    omega
  | cons c ds =>
    rw [hds] at hdigits
    obtain ⟨hc, -⟩ := List.forall_mem_cons.mp hdigits
    rw [encodeUtf8_cons_of_ascii (toNat_lt_of_isDigit hc)]
    intro heq
    rw [← Option.some.inj heq, digitByte?_of_isDigit hc] at hb
    cases hb

/-! ## Dates -/

def dateBytes (year month day : Nat) : Bytes :=
  encodeUtf8 (paddedDigits 4 year) ++ dash :: (encodeUtf8 (paddedDigits 2 month) ++
    dash :: encodeUtf8 (paddedDigits 2 day))

theorem exists_dateBytes {number : Nat} (h : number < Calendar.dayCount) :
    ∃ year month day, Calendar.IsDate year month day ∧
      Calendar.dayNumber year month day = number ∧
      encodeUtf8 (dateText number) = dateBytes year month day := by
  rcases hdate : Calendar.dateOf number with ⟨year, month, day⟩
  obtain ⟨hvalid, hnumber⟩ := Calendar.dateOf_isDate h hdate
  refine ⟨year, month, day, hvalid, hnumber, ?_⟩
  rw [dateText, hdate]
  have hdash : '-'.toNat < 0x80 := by decide
  simp only [List.append_assoc, List.cons_append, encodeUtf8_append,
    encodeUtf8_cons_of_ascii hdash]
  rfl

section Dates

variable {year month day : Nat} (h : Calendar.IsDate year month day)
include h

theorem lt_of_isDate : year < Nat.pow 10 4 ∧ month < Nat.pow 10 2 ∧ day < Nat.pow 10 2 := by
  have hday := Nat.le_trans h.day_le (Calendar.daysInMonth_le year month)
  exact ⟨Nat.lt_succ_of_le h.year_le, Nat.lt_of_le_of_lt h.month_le (by decide),
    Nat.lt_of_le_of_lt hday (by decide)⟩

theorem length_dateBytes : (dateBytes year month day).length = 10 := by
  obtain ⟨hyear, hmonth, hday⟩ := lt_of_isDate h
  simp only [dateBytes, List.length_append, List.length_cons,
    length_encodeUtf8_paddedDigits (by decide : 0 < 4) hyear,
    length_encodeUtf8_paddedDigits (by decide : 0 < 2) hmonth,
    length_encodeUtf8_paddedDigits (by decide : 0 < 2) hday]

/-- The end of the date is found. -/
theorem separatorIndex?_dateBytes (rest : Bytes) :
    separatorIndex? (dateBytes year month day ++ rest) = some 10 := by
  obtain ⟨hyear, hmonth, hday⟩ := lt_of_isDate h
  have hyearLength := length_encodeUtf8_paddedDigits (by decide : 0 < 4) hyear
  have hlength : (dateBytes year month day ++ rest).length ≠ 7 := by
    rw [List.length_append, length_dateBytes h]
    omega
  have hfourth : (dateBytes year month day ++ rest)[4]? = some dash := by
    rw [dateBytes, List.append_assoc, List.getElem?_append_right (Nat.le_of_eq hyearLength),
      hyearLength]
    rfl
  have hfifth : (dateBytes year month day ++ rest)[5]? ≠ some letterW := by
    have hne := head?_paddedDigits_ne (by decide : 0 < 2) hmonth
      (by decide : digitByte? letterW = none) (dash :: encodeUtf8 (paddedDigits 2 day) ++ rest)
    rw [dateBytes, List.append_assoc, List.getElem?_append_right (by omega), hyearLength,
      List.cons_append, List.getElem?_cons_succ, ← List.head?_eq_getElem?, List.append_assoc]
    exact hne
  rw [separatorIndex?]
  simp only [if_neg hlength, if_pos hfourth, if_neg hfifth]

theorem dateParts?_dateBytes (rest : Bytes) :
    dateParts? (dateBytes year month day ++ rest) 10 = some (.calendar year month day) := by
  obtain ⟨hyear, hmonth, hday⟩ := lt_of_isDate h
  have htotal : (dateBytes year month day ++ rest).length - rest.length = 10 := by
    rw [List.length_append, length_dateBytes h, Nat.add_sub_cancel]
  have htext : dateBytes year month day ++ rest = encodeUtf8 (paddedDigits 4 year) ++
      dash :: (encodeUtf8 (paddedDigits 2 month) ++
        dash :: (encodeUtf8 (paddedDigits 2 day) ++ rest)) := by
    simp only [dateBytes, List.append_assoc, List.cons_append]
  have hweek := head?_paddedDigits_ne (by decide : 0 < 2) hmonth
    (by decide : digitByte? letterW = none) (dash :: (encodeUtf8 (paddedDigits 2 day) ++ rest))
  have hextended : (some dash == some dash) = true := by decide
  rw [dateParts?, htext, takeDigits_paddedDigits (by decide) hyear]
  simp only [Option.bind_eq_bind, Option.bind_some, List.head?_cons, hextended, if_true,
    List.drop_succ_cons, List.drop_zero, if_neg hweek,
    takeDigits_paddedDigits (by decide : 0 < 2) hmonth,
    takeDigits_paddedDigits (by decide : 0 < 2) hday, not_true_eq_false, ne_eq, and_false, if_false]
  rw [← htext, if_pos htotal]

end Dates

/-! ## Times -/

theorem ne_nil_of_paddedDigits (h : n < Nat.pow 10 2) : encodeUtf8 (paddedDigits 2 n) ≠ [] := by
  intro hnil
  have hlength := length_encodeUtf8_paddedDigits (by decide : 0 < 2) h
  rw [hnil] at hlength
  cases hlength

theorem encodeUtf8_colon (cs : List Char) : encodeUtf8 (':' :: cs) = colon :: encodeUtf8 cs :=
  encodeUtf8_cons_of_ascii (by decide) cs

theorem encodeUtf8_pairText (a b : Nat) :
    encodeUtf8 (pairText a b) =
      encodeUtf8 (paddedDigits 2 a) ++ colon :: encodeUtf8 (paddedDigits 2 b) := by
  rw [pairText, encodeUtf8_append, encodeUtf8_colon]

section Clocks

variable (stop : UInt8) (count : Nat) (fields : List Nat)

theorem fractionParts?_paddedDigits {f : Nat} (h : f < Nat.pow 10 6) :
    fractionParts? (encodeUtf8 (paddedDigits 6 f)) stop = some (f, decide (stop ≠ 0)) := by
  have hlength := length_encodeUtf8_paddedDigits (by decide : 0 < 6) h
  have htake := takeDigits_paddedDigits (by decide : 0 < 6) h []
  rw [List.append_nil] at htake
  rw [fractionParts?]
  simp only [hlength, Nat.min_self, htake, Option.bind_eq_bind, Option.bind_some,
    List.dropWhile_nil, List.head?_nil, Option.getD_none, Nat.sub_self]
  exact congrArg (fun n ↦ some (n, decide (stop ≠ 0))) (Nat.mul_one f)

/-- A field with nothing behind it is the last one. -/
theorem clockFields?_last (separated : Bool) (h : n < Nat.pow 10 2) :
    clockFields? stop (count + 1) separated fields (encodeUtf8 (paddedDigits 2 n)) =
      some (fields ++ [n], 0, decide (stop ≠ 0)) := by
  have htake := takeDigits_paddedDigits (by decide : 0 < 2) h []
  rw [List.append_nil] at htake
  rw [clockFields?, htake]
  rfl

/-- A colon behind a field announces another one. -/
theorem clockFields?_colon (h : n < Nat.pow 10 2) {rest : Bytes} (hrest : rest ≠ []) :
    clockFields? stop (count + 1) true fields (encodeUtf8 (paddedDigits 2 n) ++ colon :: rest) =
      clockFields? stop count true (fields ++ [n]) rest := by
  have hlength : ¬(colon :: rest).length ≤ 1 := by
    have hpos := List.length_pos_iff.mpr hrest
    rw [List.length_cons]
    omega
  rw [clockFields?, takeDigits_paddedDigits (by decide) h]
  simp only [Option.bind_eq_bind, Option.bind_some, if_neg hlength, List.head?_cons,
    Option.getD_some, decide_true, ite_self, Bool.and_true, if_true, List.drop_succ_cons,
    List.drop_zero]

/-- A point behind a field announces a fraction. -/
theorem clockFields?_fraction (separated : Bool) (h : n < Nat.pow 10 2) {f : Nat}
    (hf : f < Nat.pow 10 6) :
    clockFields? stop (count + 1) separated fields
        (encodeUtf8 (paddedDigits 2 n) ++ 46 :: encodeUtf8 (paddedDigits 6 f)) =
      some (fields ++ [n], f, decide (stop ≠ 0)) := by
  have hlength : ¬((46 : UInt8) :: encodeUtf8 (paddedDigits 6 f)).length ≤ 1 := by
    rw [List.length_cons, length_encodeUtf8_paddedDigits (by decide) hf]
    decide
  have hpoint : (46 : UInt8) ≠ colon := by decide
  rw [clockFields?, takeDigits_paddedDigits (by decide) h]
  simp only [Option.bind_eq_bind, Option.bind_some, if_neg hlength, List.head?_cons,
    Option.getD_some, hpoint, decide_false, Bool.and_false, Bool.false_eq_true, if_false, true_or,
    if_true, List.drop_succ_cons, List.drop_zero, fractionParts?_paddedDigits stop hf]
  rfl

theorem clockParts?_pairText {hour minute : Nat} (hhour : hour < Nat.pow 10 2)
    (hminute : minute < Nat.pow 10 2) :
    clockParts? (encodeUtf8 (pairText hour minute)) stop =
      some ⟨hour, minute, 0, 0, decide (stop ≠ 0)⟩ := by
  rw [clockParts?, encodeUtf8_pairText,
    clockFields?_colon stop _ _ hhour (ne_nil_of_paddedDigits hminute),
    clockFields?_last stop _ _ _ hminute]
  rfl

/-- What a clock shows so many microseconds after midnight. -/
def clockOf (micros : Nat) (followed : Bool) : ClockParts where
  hour := micros / microsPerSecond / 3600
  minute := micros / microsPerSecond / 60 % 60
  second := micros / microsPerSecond % 60
  micro := micros % microsPerSecond
  followed := followed

theorem clockParts?_clockText {micros : Nat} (h : micros < microsPerDay) :
    clockParts? (encodeUtf8 (clockText micros)) stop =
      some (clockOf micros (decide (stop ≠ 0))) := by
  have hday : micros < 86400000000 := h
  obtain ⟨s, hs⟩ : ∃ s, micros / microsPerSecond = s := ⟨_, rfl⟩
  obtain ⟨f, hf⟩ : ∃ f, micros % microsPerSecond = f := ⟨_, rfl⟩
  have hbounds : s / 3600 < Nat.pow 10 2 ∧ s / 60 % 60 < Nat.pow 10 2 ∧ s % 60 < Nat.pow 10 2 ∧
      f < Nat.pow 10 6 := by
    simp only [microsPerSecond] at hs hf
    simp only [Nat.pow_eq, Nat.reducePow]
    omega
  obtain ⟨hhour, hminute, hsecond, hmicro⟩ := hbounds
  have htext : encodeUtf8 (clockText micros) = encodeUtf8 (paddedDigits 2 (s / 3600)) ++
      colon :: (encodeUtf8 (paddedDigits 2 (s / 60 % 60)) ++
        colon :: (encodeUtf8 (paddedDigits 2 (s % 60)) ++
          encodeUtf8 (if f = 0 then [] else '.' :: paddedDigits 6 f))) := by
    simp only [clockText, hs, hf, encodeUtf8_append, encodeUtf8_pairText, encodeUtf8_colon,
      List.append_assoc, List.cons_append]
  have hrest (rest : Bytes) : encodeUtf8 (paddedDigits 2 (s % 60)) ++ rest ≠ [] :=
    List.append_ne_nil_of_left_ne_nil (ne_nil_of_paddedDigits hsecond) _
  rw [clockParts?, htext,
    clockFields?_colon stop _ _ hhour
      (List.append_ne_nil_of_left_ne_nil (ne_nil_of_paddedDigits hminute) _),
    clockFields?_colon stop _ _ hminute (hrest _)]
  simp only [clockOf, hs, hf]
  by_cases hzero : f = 0
  · rw [if_pos hzero, hzero]
    have hlast := clockFields?_last stop 0 ([] ++ [s / 3600] ++ [s / 60 % 60]) true hsecond
    rw [show encodeUtf8 [] = [] from rfl, List.append_nil, hlast]
    rfl
  · have hpoint : encodeUtf8 ('.' :: paddedDigits 6 f) = 46 :: encodeUtf8 (paddedDigits 6 f) :=
      encodeUtf8_cons_of_ascii (by decide) _
    rw [if_neg hzero, hpoint, clockFields?_fraction stop 0 _ true hsecond hmicro]
    rfl

end Clocks

theorem micros?_clockOf {micros : Nat} (h : micros < microsPerDay) (followed : Bool) :
    (clockOf micros followed).micros? = some micros := by
  have hday : micros < 86400000000 := h
  have hrange : (clockOf micros followed).hour < 24 ∧ (clockOf micros followed).minute < 60 ∧
      (clockOf micros followed).second < 60 := by
    simp only [clockOf, microsPerSecond]
    omega
  rw [ClockParts.micros?, if_pos hrange]
  refine congrArg some ?_
  simp only [clockOf, microsPerSecond]
  omega

/-! ## Offsets -/

/-- Behind its sign an offset is a clock, whose seconds are left out where they are zero. -/
def spanText (micros : Nat) : List Char :=
  if micros / microsPerSecond % 60 = 0 ∧ micros % microsPerSecond = 0 then
    pairText (micros / microsPerSecond / 3600) (micros / microsPerSecond / 60 % 60)
  else clockText micros

theorem offsetText_eq (offset : Int) :
    offsetText offset = (if offset < 0 then '-' else '+') :: spanText offset.natAbs := by
  simp only [offsetText, spanText, clockText]
  by_cases hwhole : offset.natAbs / microsPerSecond % 60 = 0 ∧ offset.natAbs % microsPerSecond = 0
  · simp only [if_pos hwhole, if_pos hwhole.2, List.append_nil]
  · simp only [if_neg hwhole]
    rfl

/-- What is read as a clock shows the microseconds that it was written for. -/
theorem clockParts?_spanText {micros : Nat} (h : micros < microsPerDay) :
    ∃ parts, clockParts? (encodeUtf8 (spanText micros)) 0 = some parts ∧ parts.followed = false ∧
      parts.hour * 3600 + parts.minute * 60 + parts.second = micros / microsPerSecond ∧
      parts.micro = micros % microsPerSecond := by
  have hday : micros < 86400000000 := h
  rw [spanText]
  split
  · next hwhole =>
    have hhour : micros / microsPerSecond / 3600 < Nat.pow 10 2 := by
      simp only [microsPerSecond, Nat.pow_eq, Nat.reducePow]
      omega
    have hminute : micros / microsPerSecond / 60 % 60 < Nat.pow 10 2 :=
      Nat.lt_trans (Nat.mod_lt _ (by decide)) (by decide)
    refine ⟨_, clockParts?_pairText 0 hhour hminute, rfl, ?_, hwhole.2.symm⟩
    simp only
    omega
  · refine ⟨_, clockParts?_clockText 0 h, rfl, ?_, rfl⟩
    simp only [clockOf]
    omega

/-- **An offset that a text can tell is read back.** -/
theorem offsetParts?_spanText {offset : Int} (hday : offset.natAbs < microsPerDay)
    (htold : offset = 0 ∨ microsPerSecond ≤ offset.natAbs) :
    offsetParts? (if offset < 0 then dash else 43) (encodeUtf8 (spanText offset.natAbs)) =
      some offset := by
  obtain ⟨parts, hparts, hfollowed, hseconds, hmicro⟩ := clockParts?_spanText hday
  have hletter : (if offset < 0 then dash else 43) ≠ letterZ := by
    split <;> decide
  have hsign : (if offset < 0 then dash else 43) = dash ↔ offset < 0 := by
    split
    · next hneg => exact iff_of_true rfl hneg
    · next hneg => exact iff_of_false (by decide) hneg
  have htotal : ((offset.natAbs / microsPerSecond : Nat) : Int) * microsPerSecond +
      (offset.natAbs % microsPerSecond : Nat) = offset.natAbs := by
    exact_mod_cast Nat.div_add_mod' offset.natAbs microsPerSecond
  rw [offsetParts?, if_neg hletter, hparts]
  simp only [Option.bind_eq_bind, Option.bind_some, hfollowed, Bool.false_eq_true, if_false,
    hseconds, hmicro, hsign, htotal]
  refine congrArg some ?_
  by_cases hzero : offset.natAbs / microsPerSecond = 0
  · rw [if_pos hzero]
    have hsmall : offset.natAbs < microsPerSecond := (Nat.div_eq_zero_iff_lt (by decide)).mp hzero
    omega
  · rw [if_neg hzero]
    by_cases hneg : offset < 0
    · rw [if_pos hneg]
      omega
    · rw [if_neg hneg]
      omega

/-! ## Texts -/

theorem mem_clockText {micros : Nat} {c : Char} (h : c ∈ clockText micros) :
    c.isDigit = true ∨ c = ':' ∨ c = '.' := by
  have hfraction : c ∈ (if micros % microsPerSecond = 0 then [] else
      '.' :: paddedDigits 6 (micros % microsPerSecond)) → c.isDigit = true ∨ c = '.' := by
    split
    · exact fun hc ↦ nomatch hc
    · intro hc
      rcases List.mem_cons.mp hc with hc | hc
      · exact .inr hc
      · exact .inl (isDigit_of_mem_paddedDigits hc)
  simp only [clockText, pairText, List.mem_append, List.mem_cons] at h
  rcases h with ((h | h | h) | h | h) | h
  · exact .inl (isDigit_of_mem_paddedDigits h)
  · exact .inr (.inl h)
  · exact .inl (isDigit_of_mem_paddedDigits h)
  · exact .inr (.inl h)
  · exact .inl (isDigit_of_mem_paddedDigits h)
  · exact (hfraction h).imp_right .inr

/-- No offset begins within a clock. -/
theorem beginsOffset_of_mem_clockText {micros : Nat} {b : UInt8}
    (h : b ∈ encodeUtf8 (clockText micros)) : (!beginsOffset b) = true := by
  obtain ⟨c, hc, hb⟩ := List.mem_flatMap.mp h
  rcases mem_clockText hc with hdigit | rfl | rfl
  · have hbyte : digitByte? b ≠ none := by
      rw [charBytes, if_pos (toNat_lt_of_isDigit hdigit), List.mem_singleton] at hb
      rw [hb, digitByte?_of_isDigit hdigit]
      exact nofun
    rw [Bool.not_eq_true', ← Bool.not_eq_true]
    intro hbegins
    simp only [beginsOffset, Bool.or_eq_true, beq_iff_eq] at hbegins
    rcases hbegins with (rfl | rfl) | rfl <;> exact hbyte (by decide)
  · cases List.mem_singleton.mp hb
    decide
  · cases List.mem_singleton.mp hb
    decide

/-- The offset as it is written behind a clock. -/
def zoneText : Option Int → List Char
  | some offset => offsetText offset
  | none => []

/-- A time with an offset that a text can tell is read back. -/
theorem timeParts?_clockText {micros : Nat} (h : micros < microsPerDay) {offset : Option Int}
    (htold : ∀ o ∈ offset, o.natAbs < microsPerDay ∧ (o = 0 ∨ microsPerSecond ≤ o.natAbs)) :
    ∃ followed, timeParts? (encodeUtf8 (clockText micros) ++ encodeUtf8 (zoneText offset)) =
      some (clockOf micros followed, offset) := by
  have hclock : ∀ b ∈ encodeUtf8 (clockText micros), (!beginsOffset b) = true :=
    fun b hb ↦ beginsOffset_of_mem_clockText hb
  rw [timeParts?, List.takeWhile_append_of_pos hclock, List.dropWhile_append_of_pos hclock]
  cases offset with
  | none =>
    have hnone : encodeUtf8 (zoneText none) = [] := rfl
    rw [hnone, List.takeWhile_nil, List.dropWhile_nil, List.append_nil, clockParts?_clockText 0 h]
    exact ⟨_, rfl⟩
  | some o =>
    obtain ⟨hday, hwhole⟩ := htold o rfl
    obtain ⟨sign, hsign, hbegins⟩ : ∃ sign, (if o < 0 then dash else 43) = sign ∧
        (!beginsOffset sign) = false := by
      refine ⟨_, rfl, ?_⟩
      split <;> decide
    have hzone : encodeUtf8 (zoneText (some o)) = sign :: encodeUtf8 (spanText o.natAbs) := by
      rw [zoneText, offsetText_eq, ← hsign]
      split
      · exact encodeUtf8_cons_of_ascii (by decide) _
      · exact encodeUtf8_cons_of_ascii (by decide) _
    have hoffset := offsetParts?_spanText hday hwhole
    rw [hsign] at hoffset
    rw [hzone, List.takeWhile_cons, List.dropWhile_cons, hbegins]
    simp only [Bool.false_eq_true, if_false, List.append_nil, clockParts?_clockText sign h, hoffset,
      Option.bind_eq_bind, Option.bind_some]
    exact ⟨_, rfl⟩

/-- A date and a time with a letter between them. -/
theorem parts?_of_date {year month day : Nat} (hdate : Calendar.IsDate year month day)
    {bs : Bytes} {time : ClockParts × Option Int} (htime : timeParts? bs = some time) :
    parts? (dateBytes year month day ++ 'T'.toNat.toUInt8 :: bs) =
      some (.calendar year month day, time) := by
  have hlength := length_dateBytes hdate
  have hdrop : (dateBytes year month day ++ 'T'.toNat.toUInt8 :: bs).drop 10 =
      'T'.toNat.toUInt8 :: bs := by
    rw [← hlength, List.drop_left]
  have hrest : (dateBytes year month day ++ 'T'.toNat.toUInt8 :: bs).drop
      (10 + separatorLength 'T'.toNat.toUInt8) = bs := by
    rw [← List.drop_drop, hdrop]
    rfl
  have hlong : ¬(dateBytes year month day ++ 'T'.toNat.toUInt8 :: bs).length < 7 := by
    rw [List.length_append, hlength]
    omega
  rw [parts?, if_neg hlong, separatorIndex?_dateBytes hdate]
  simp only [Option.bind_eq_bind, Option.bind_some, dateParts?_dateBytes hdate, hdrop, hrest, htime]
  rfl

theorem ofParts?_eq {date : DateParts} {clock : ClockParts} {offset : Option Int}
    {number micros : Nat} (hday : (offset.getD 0).natAbs < microsPerDay)
    (hdate : date.number? = some number) (hclock : clock.micros? = some micros) :
    ofParts? date clock offset = ofWall? (number * microsPerDay + micros) offset := by
  rw [ofParts?, if_pos hday, hdate, hclock, Option.bind_eq_bind, Option.bind_some,
    Option.bind_some]

/-- **A moment with an offset that a text can tell is read from its text.** -/
theorem readIso_iso {m : Moment} (h : m.IsTold) : readIso m.iso = .ok m := by
  have hclock : m.wall % microsPerDay < microsPerDay := Nat.mod_lt _ (by decide)
  obtain ⟨year, month, day, hdate, hnumber, hbytes⟩ := exists_dateBytes m.day_lt
  obtain ⟨followed, htime⟩ := timeParts?_clockText hclock h
  have htext : utf8 m.iso = dateBytes year month day ++ 'T'.toNat.toUInt8 ::
      (encodeUtf8 (clockText (m.wall % microsPerDay)) ++ encodeUtf8 (zoneText m.offset)) := by
    have hchars : isoChars 'T' m = dateText (m.wall / microsPerDay) ++
        'T' :: clockText (m.wall % microsPerDay) ++ zoneText m.offset := by
      rw [isoChars]
      cases m.offset <;> rfl
    rw [utf8, iso, isoWith, String.toList_ofList, hchars, encodeUtf8_append, encodeUtf8_append,
      encodeUtf8_cons_of_ascii (by decide), hbytes, List.append_assoc, List.cons_append]
  have hparts : parts? (utf8 m.iso) =
      some (.calendar year month day, clockOf (m.wall % microsPerDay) followed, m.offset) := by
    rw [htext]
    exact parts?_of_date hdate htime
  have hyear : (DateParts.calendar year month day).number? = some (m.wall / microsPerDay) := by
    rw [DateParts.number?, if_pos ⟨hdate.year_pos, hdate.month_pos, hdate.month_le, hdate.day_pos,
      hdate.day_le⟩, hnumber]
  have hmoment : ofParts? (.calendar year month day) (clockOf (m.wall % microsPerDay) followed)
      m.offset = some m := by
    rw [ofParts?_eq h.natAbs_lt hyear (micros?_clockOf hclock followed), Nat.div_add_mod']
    exact dif_pos m.wall_lt
  rw [readIso, isoText?, Option.bind_some, hparts]
  simp only [hmoment]

/-! ## What is read -/

/-- An offset of zero seconds is read as none, whatever its fraction. -/
theorem offsetParts?_eq_some {sign : UInt8} {bs : Bytes} {offset : Int}
    (h : offsetParts? sign bs = some offset) : offset = 0 ∨ microsPerSecond ≤ offset.natAbs := by
  rw [offsetParts?] at h
  split at h
  · split at h <;> cases h
    exact .inl rfl
  · obtain ⟨parts, -, h⟩ := Option.bind_eq_some_iff.mp h
    simp only at h
    generalize parts.hour * 3600 + parts.minute * 60 + parts.second = seconds at h
    by_cases hzero : seconds = 0
    · rw [if_pos hzero] at h
      split at h <;> cases h
      exact .inl rfl
    · have hmicros : microsPerSecond ≤ seconds * microsPerSecond + parts.micro :=
        Nat.le_add_right_of_le (Nat.le_mul_of_pos_left _ (Nat.pos_of_ne_zero hzero))
      rw [if_neg hzero] at h
      split at h
      · cases h
      · have hread := Option.some.inj h
        simp only [microsPerSecond] at hmicros hread ⊢
        refine .inr ?_
        rw [← hread]
        split <;> omega

theorem timeParts?_eq_some {bs : Bytes} {clock : ClockParts} {offset : Option Int}
    (h : timeParts? bs = some (clock, offset)) :
    ∀ o ∈ offset, o = 0 ∨ microsPerSecond ≤ o.natAbs := by
  rw [timeParts?] at h
  split at h
  · obtain ⟨parts, -, h⟩ := Option.bind_eq_some_iff.mp h
    split at h <;> cases h
    exact fun _ ho ↦ nomatch ho
  · obtain ⟨parts, -, h⟩ := Option.bind_eq_some_iff.mp h
    obtain ⟨read, hread, h⟩ := Option.bind_eq_some_iff.mp h
    cases h
    rintro o ⟨⟩
    exact offsetParts?_eq_some hread

theorem parts?_eq_some {bs : Bytes} {date : DateParts} {clock : ClockParts} {offset : Option Int}
    (h : parts? bs = some (date, clock, offset)) :
    ∀ o ∈ offset, o = 0 ∨ microsPerSecond ≤ o.natAbs := by
  rw [parts?] at h
  split at h
  · cases h
  · obtain ⟨index, -, h⟩ := Option.bind_eq_some_iff.mp h
    obtain ⟨read, -, h⟩ := Option.bind_eq_some_iff.mp h
    split at h
    · -- a date alone
      cases h
      exact fun _ ho ↦ nomatch ho
    · obtain ⟨time, htime, h⟩ := Option.bind_eq_some_iff.mp h
      cases h
      exact timeParts?_eq_some htime

theorem ofParts?_eq_some {date : DateParts} {clock : ClockParts} {offset : Option Int} {m : Moment}
    (h : ofParts? date clock offset = some m) :
    m.offset = offset ∧ (offset.getD 0).natAbs < microsPerDay := by
  rw [ofParts?] at h
  split at h
  · next hday =>
    obtain ⟨number, -, h⟩ := Option.bind_eq_some_iff.mp h
    obtain ⟨micros, -, h⟩ := Option.bind_eq_some_iff.mp h
    exact ⟨offset_of_ofWall? h, hday⟩
  · cases h

/-- **Whatever is read has an offset that a text can tell.** -/
theorem isTold_of_readIso {s : Text} {m : Moment} (h : readIso s = .ok m) : m.IsTold := by
  rw [readIso] at h
  cases hread : (isoText? s).bind fun text ↦ parts? (utf8 text) with
  | none =>
    rw [hread] at h
    cases h
  | some parts =>
    obtain ⟨date, clock, offset⟩ := parts
    obtain ⟨text, -, hparts⟩ := Option.bind_eq_some_iff.mp hread
    rw [hread] at h
    simp only at h
    cases hmoment : ofParts? date clock offset with
    | none =>
      rw [hmoment] at h
      cases h
    | some read =>
      rw [hmoment] at h
      cases h
      obtain ⟨hoffset, hday⟩ := ofParts?_eq_some hmoment
      intro o ho
      rw [hoffset] at ho
      rw [ho] at hday
      exact ⟨hday, parts?_eq_some hparts o ho⟩

/-- The moments that are read from their texts. -/
theorem readIso_iso_iff {m : Moment} : readIso m.iso = .ok m ↔ m.IsTold :=
  ⟨isTold_of_readIso, readIso_iso⟩

/-- A clock that shows universal time or none is always told. -/
theorem IsTold.orUniversal {m : Moment} (h : m.IsTold) : m.orUniversal.IsTold := by
  rw [Moment.orUniversal]
  cases hm : m.offset with
  | none =>
    rintro offset ⟨⟩
    exact ⟨by decide, .inl rfl⟩
  | some offset => exact h

end Moment

end SessionGate
