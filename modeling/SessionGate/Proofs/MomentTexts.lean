import SessionGate.Moment.Iso
import SessionGate.Moment.Lax
import SessionGate.Proofs.Calendar
import SessionGate.Proofs.CheckedFields
import SessionGate.Proofs.Digits

/-!
# Moments read back in fields

`Moment.iso` writes what `Moment.readLax?` reads, as far as that reads anything: a field knows no
offset but one of whole minutes, of less than a day. `Moment.IsWhole` says that a moment has such an
offset or none, and `readLax?_iso` that it is read back from its text. Every moment that a field
holds is one of these, so a moment that was read once can be written and read again.

The three parts of a text are read by three functions, each of which leaves the rest. The lemma
about a part is stated for any rest that does not go on in a way in which the part could go on.
-/

namespace SessionGate.Moment

open Text

def microsPerMinute : Nat := 60 * microsPerSecond

/-- The offset, if there is one, is a whole number of minutes and less than a day. -/
def IsWhole (m : Moment) : Prop :=
  ∀ offset ∈ m.offset, ∃ minutes : Int, minutes.natAbs < 1440 ∧ offset = minutes * microsPerMinute

/-! ## Numbers of two digits -/

theorem twoDigits?_digitChar {a b : Nat} (ha : a < 10) (hb : b < 10) :
    twoDigits? (Nat.digitChar a) (Nat.digitChar b) = some (a * 10 + b) := by
  rw [twoDigits?, asciiDigit?_digitChar ha, asciiDigit?_digitChar hb]
  rfl

theorem twoDigits?_paddedDigits {n : Nat} (h : n < 100) :
    twoDigits? (Nat.digitChar (n / 10)) (Nat.digitChar (n % 10)) = some n := by
  rw [twoDigits?_digitChar (by omega) (by omega), Nat.div_add_mod']

/-! ## Dates -/

theorem spanDate?_dateText {number : Nat} (h : number < Calendar.dayCount) (rest : List Char) :
    spanDate? (dateText number ++ rest) = some (some number, rest) := by
  rcases hdate : Calendar.dateOf number with ⟨year, month, day⟩
  obtain ⟨hvalid, hnumber⟩ := Calendar.dateOf_isDate h hdate
  have hyear : year < 10000 := Nat.lt_succ_of_le hvalid.year_le
  have hmonth : month < 100 := Nat.lt_of_le_of_lt hvalid.month_le (by decide)
  have hday : day < 100 := Nat.lt_of_le_of_lt hvalid.day_le
    (Nat.lt_of_le_of_lt (Calendar.daysInMonth_le year month) (by decide))
  have hdigits : year / 100 * 100 + year % 100 = year := Nat.div_add_mod' year 100
  have hpositive : year ≠ 0 := Nat.ne_of_gt hvalid.year_pos
  rw [dateText, hdate]
  simp only [paddedDigits_four hyear, paddedDigits_two hmonth, paddedDigits_two hday,
    List.cons_append, List.nil_append]
  have hcentury : year / 100 < 100 := by omega
  have hrest : year % 100 < 100 := Nat.mod_lt _ (by decide)
  rw [spanDate?, twoDigits?_paddedDigits hcentury, twoDigits?_paddedDigits hrest,
    twoDigits?_paddedDigits hmonth, twoDigits?_paddedDigits hday]
  simp only [Option.bind_eq_bind, Option.bind_some, hdigits, if_neg hpositive, hnumber]
  rw [if_pos ⟨hvalid.month_pos, hvalid.month_le, hvalid.day_pos, hvalid.day_le⟩]
  rfl

/-! ## Times -/

/-- What may follow a time: neither digits nor a fraction nor further parts. -/
def EndsTime (rest : List Char) : Prop :=
  ∀ c ∈ rest.head?, c.isDigit = false ∧ c ≠ ':' ∧ c ≠ '.' ∧ c ≠ ','

theorem fractionMicros_paddedDigits {f : Nat} (h : f < 1000000) :
    fractionMicros (paddedDigits 6 f) = f := by
  have hlength : (paddedDigits 6 f).length = 6 := length_paddedDigits (by decide) h
  have htake : (paddedDigits 6 f).take 6 = paddedDigits 6 f :=
    List.take_of_length_le (Nat.le_of_eq hlength)
  simp only [fractionMicros, htake, hlength, digitsValue_paddedDigits]
  exact Nat.mul_one f

theorem spanSeconds?_paddedDigits {second f : Nat} {rest : List Char} (hsecond : second < 60)
    (hf : f < 1000000) (hrest : EndsTime rest) :
    spanSeconds? (':' :: paddedDigits 2 second ++
      ((if f = 0 then [] else '.' :: paddedDigits 6 f) ++ rest)) =
        some (second * microsPerSecond + f, rest) := by
  have hbound : ¬59 < second := by omega
  have hsmall : second < 100 := by omega
  rw [paddedDigits_two hsmall]
  simp only [List.cons_append, List.nil_append, spanSeconds?, twoDigits?_paddedDigits hsmall,
    Option.bind_eq_bind, Option.bind_some, if_neg hbound]
  by_cases hzero : f = 0
  · rw [if_pos hzero, hzero, List.nil_append, Nat.add_zero]
    cases rest with
    | nil => rfl
    | cons c rest =>
      obtain ⟨-, -, hpoint, hcomma⟩ := hrest c rfl
      split
      · next heq => exact absurd (List.cons.inj heq).1 hpoint
      · next heq => exact absurd (List.cons.inj heq).1 hcomma
      · rfl
  · have hdigits : ∀ c ∈ paddedDigits 6 f, c.isDigit = true :=
      fun c hc ↦ isDigit_of_mem_paddedDigits hc
    have hspan := spanDigits_append hdigits fun c hc ↦ (hrest c hc).1
    have hne : paddedDigits 6 f ≠ [] := by
      intro hnil
      have hlength : (paddedDigits 6 f).length = 6 := length_paddedDigits (by decide) hf
      rw [hnil] at hlength
      cases hlength
    have hvalue := fractionMicros_paddedDigits hf
    simp only [if_neg hzero, List.cons_append, hspan]
    cases hpadded : paddedDigits 6 f with
    | nil => exact absurd hpadded hne
    | cons d ds =>
      rw [hpadded] at hvalue
      simp only [hvalue]
      rfl

theorem spanTime?_clockText {micros : Nat} {rest : List Char} (h : micros < microsPerDay)
    (hrest : EndsTime rest) : spanTime? (clockText micros ++ rest) = some (micros, rest) := by
  have hday : micros < 86400000000 := h
  obtain ⟨s, hs⟩ : ∃ s, micros / 1000000 = s := ⟨_, rfl⟩
  obtain ⟨f, hf⟩ : ∃ f, micros % 1000000 = f := ⟨_, rfl⟩
  have hhour : s / 3600 < 100 := by omega
  have hminute : s / 60 % 60 < 100 := by omega
  have hrange : ¬(23 < s / 3600 ∨ 59 < s / 60 % 60) := by omega
  have htext : clockText micros ++ rest = Nat.digitChar (s / 3600 / 10) ::
      Nat.digitChar (s / 3600 % 10) :: ':' :: Nat.digitChar (s / 60 % 60 / 10) ::
      Nat.digitChar (s / 60 % 60 % 10) :: (':' :: paddedDigits 2 (s % 60) ++
        ((if f = 0 then [] else '.' :: paddedDigits 6 f) ++ rest)) := by
    simp only [clockText, pairText, microsPerSecond, hs, hf, paddedDigits_two hhour,
      paddedDigits_two hminute, List.cons_append, List.nil_append, List.append_assoc]
  rw [htext]
  simp only [spanTime?, twoDigits?_paddedDigits hhour, twoDigits?_paddedDigits hminute,
    Option.bind_eq_bind, Option.bind_some, if_neg hrange]
  rw [spanSeconds?_paddedDigits (by omega) (by omega) hrest]
  simp only [Option.bind_some, microsPerSecond]
  refine congrArg (fun n ↦ some (n, rest)) ?_
  omega

/-! ## Offsets -/

theorem offsetText_minutes {minutes : Int} (h : minutes.natAbs < 1440) :
    offsetText (minutes * microsPerMinute) =
      (if minutes < 0 then '-' else '+') ::
        [Nat.digitChar (minutes.natAbs / 60 / 10), Nat.digitChar (minutes.natAbs / 60 % 10), ':',
          Nat.digitChar (minutes.natAbs % 60 / 10), Nat.digitChar (minutes.natAbs % 60 % 10)] := by
  have hmicros : (minutes * microsPerMinute).natAbs = minutes.natAbs * 60 * microsPerSecond := by
    rw [Int.natAbs_mul, Int.natAbs_natCast, microsPerMinute, Nat.mul_assoc]
  have hwhole : minutes.natAbs * 60 * microsPerSecond / microsPerSecond = minutes.natAbs * 60 :=
    Nat.mul_div_cancel _ (by decide)
  have hnone : minutes.natAbs * 60 * microsPerSecond % microsPerSecond = 0 := Nat.mul_mod_left _ _
  have hhour : minutes.natAbs * 60 / 3600 = minutes.natAbs / 60 := by omega
  have hminute : minutes.natAbs * 60 / 60 % 60 = minutes.natAbs % 60 := by omega
  have hseconds : minutes.natAbs * 60 % 60 = 0 := Nat.mul_mod_left _ _
  have hsign : minutes * microsPerMinute < 0 ↔ minutes < 0 := by
    have hminute : (microsPerMinute : Int) = 60000000 := rfl
    rw [hminute]
    omega
  have hsmall : minutes.natAbs / 60 < 100 := by omega
  have hrest : minutes.natAbs % 60 < 100 := by omega
  simp only [offsetText, hmicros, hwhole, hnone, hhour, hminute, hseconds, hsign, pairText,
    paddedDigits_two hsmall, paddedDigits_two hrest, and_self, if_true, List.append_nil,
    List.cons_append, List.nil_append]

/-- Hours and minutes behind a sign are read. -/
theorem readOffset?_pair (negative : Bool) {hour minute : Nat} (hhour : hour < 24)
    (hminute : minute < 60) :
    readOffset? ((if negative then '-' else '+') ::
      [Nat.digitChar (hour / 10), Nat.digitChar (hour % 10), ':', Nat.digitChar (minute / 10),
        Nat.digitChar (minute % 10)]) =
      some (some (if negative then -((hour * 60 + minute : Int) * 60 * microsPerSecond)
        else (hour * 60 + minute : Int) * 60 * microsPerSecond)) := by
  have hrange : ¬(59 < minute ∨ 23 < hour) := by omega
  have hhour' : twoDigits? (Nat.digitChar (hour / 10)) (Nat.digitChar (hour % 10)) = some hour :=
    twoDigits?_paddedDigits (by omega)
  have hminute' : twoDigits? (Nat.digitChar (minute / 10)) (Nat.digitChar (minute % 10)) =
    some minute := twoDigits?_paddedDigits (by omega)
  cases negative <;> simp [readOffset?, spanOffsetSign?, hhour', hminute', hrange]

theorem readOffset?_offsetText {minutes : Int} (h : minutes.natAbs < 1440) :
    readOffset? (offsetText (minutes * microsPerMinute)) =
      some (some (minutes * microsPerMinute)) := by
  -- the sign is written apart from the hours and minutes, which are those of the absolute value
  have hpair := readOffset?_pair (decide (minutes < 0)) (by omega : minutes.natAbs / 60 < 24)
    (by omega : minutes.natAbs % 60 < 60)
  simp only [decide_eq_true_eq] at hpair
  rw [offsetText_minutes h, hpair]
  refine congrArg (fun n ↦ some (some n)) ?_
  simp only [microsPerMinute, microsPerSecond]
  split <;> omega

theorem endsTime_offsetText (offset : Int) : EndsTime (offsetText offset) := by
  intro c hc
  simp only [offsetText, List.cons_append, List.head?_cons, Option.mem_some_iff] at hc
  subst hc
  split <;> decide

/-! ## Texts -/

/-- **A moment with a whole offset is read back.** -/
theorem readLax?_iso {m : Moment} (h : m.IsWhole) : readLax? m.iso = some (.moment m) := by
  have hclock : m.wall % microsPerDay < microsPerDay := Nat.mod_lt _ (by decide)
  obtain ⟨rest, htext, hends, hoffset⟩ : ∃ rest,
      isoChars 'T' m = dateText (m.wall / microsPerDay) ++
        'T' :: (clockText (m.wall % microsPerDay) ++ rest) ∧
      EndsTime rest ∧ readOffset? rest = some m.offset := by
    rw [isoChars]
    cases hm : m.offset with
    | none => exact ⟨[], by simp, fun _ h ↦ (nomatch h), rfl⟩
    | some offset =>
      obtain ⟨minutes, hlt, rfl⟩ := h offset hm
      exact ⟨_, by simp, endsTime_offsetText _, readOffset?_offsetText hlt⟩
  have hwall : m.wall / microsPerDay * microsPerDay + m.wall % microsPerDay = m.wall :=
    Nat.div_add_mod' _ _
  have hreading : readDateTime? (isoChars 'T' m) = some (.moment m) := by
    have hmark : isDateMark 'T' = true := rfl
    rw [htext, readDateTime?, spanDate?_dateText m.day_lt]
    simp only [Option.bind_eq_bind, Option.bind_some, hmark, if_true,
      spanTime?_clockText hclock hends, hoffset, readingOn?, hwall, ofWall?, dif_pos m.wall_lt,
      Option.map_some]
  rw [readLax?, iso, isoWith, String.toList_ofList, hreading]
  rfl

/-! ## Moments of fields -/

theorem isWhole_orUniversal {m : Moment} (h : m.IsWhole) : m.orUniversal.IsWhole := by
  rw [orUniversal]
  cases hm : m.offset with
  | none =>
    rintro offset ⟨⟩
    exact ⟨0, by decide, rfl⟩
  | some offset => exact h

theorem isWhole_of_universal {m : Moment} (h : m.offset = some 0) : m.IsWhole := by
  intro offset hoffset
  cases h.symm.trans hoffset
  exact ⟨0, by decide, rfl⟩

theorem isWhole_of_none {m : Moment} (h : m.offset = none) : m.IsWhole := by
  intro offset hoffset
  cases h.symm.trans hoffset

theorem offset_of_ofWall? {wall : Nat} {offset : Option Int} {m : Moment}
    (h : ofWall? wall offset = some m) : m.offset = offset := by
  rw [ofWall?] at h
  split at h
  · cases h
    rfl
  · cases h

/-- What is read as a number shows universal time. -/
theorem offset_of_readingAt? {instant : Int} {m : Moment}
    (h : readingAt? instant = some (.moment m)) : m.offset = some 0 := by
  rw [readingAt?] at h
  cases hinstant : ofInstant? instant with
  | none =>
    rw [hinstant] at h
    simp only at h
    split at h <;> cases h
  | some n =>
    rw [hinstant] at h
    cases h
    simp only [ofInstant?] at hinstant
    split at hinstant
    · exact offset_of_ofWall? hinstant
    · cases hinstant

theorem offset_of_ofDouble? {x : Binary64} {m : Moment} (h : ofDouble? x = some (.moment m)) :
    m.offset = some 0 := by
  simp only [ofDouble?] at h
  obtain ⟨whole, -, hreading⟩ := Option.bind_eq_some_iff.mp h
  exact offset_of_readingAt? hreading

/-- No more than hours and minutes of an offset are read. -/
theorem readOffset?_eq_some {cs : List Char} {offset : Int}
    (h : readOffset? cs = some (some offset)) :
    ∃ minutes : Int, minutes.natAbs < 1440 ∧ offset = minutes * microsPerMinute := by
  have hzero : ∃ minutes : Int, minutes.natAbs < 1440 ∧ (0 : Int) = minutes * microsPerMinute :=
    ⟨0, by decide, rfl⟩
  unfold readOffset? at h
  split at h
  · cases h
  · cases h
    exact hzero
  · cases h
    exact hzero
  · obtain ⟨⟨negative, body⟩, -, h⟩ := Option.bind_eq_some_iff.mp h
    have hparts {hour minute : Nat} (h : (if 59 < minute ∨ 23 < hour then none
        else some (some (if negative then -((hour * 60 + minute : Int) * 60 * microsPerSecond)
          else (hour * 60 + minute : Int) * 60 * microsPerSecond))) = some (some offset)) :
        ∃ minutes : Int, minutes.natAbs < 1440 ∧ offset = minutes * microsPerMinute := by
      split at h
      · cases h
      · refine ⟨if negative then -(hour * 60 + minute : Int) else hour * 60 + minute, ?_, ?_⟩
        · split <;> omega
        · cases h
          simp only [microsPerMinute, microsPerSecond]
          split <;> omega
    simp only at h
    -- with or without a colon between them
    split at h
    · obtain ⟨hour, -, h⟩ := Option.bind_eq_some_iff.mp h
      obtain ⟨minute, -, h⟩ := Option.bind_eq_some_iff.mp h
      exact hparts h
    · obtain ⟨hour, -, h⟩ := Option.bind_eq_some_iff.mp h
      obtain ⟨minute, -, h⟩ := Option.bind_eq_some_iff.mp h
      exact hparts h
    · cases h

theorem isWhole_of_readLax? {s : String} {m : Moment} (h : readLax? s = some (.moment m)) :
    m.IsWhole := by
  have hon {day : Option Nat} {micros : Nat} {offset : Option Int}
      (h : readingOn? day micros offset = some (.moment m)) : m.offset = offset := by
    cases day with
    | none => cases h
    | some day =>
      obtain ⟨n, hn, heq⟩ := Option.map_eq_some_iff.mp h
      cases heq
      exact offset_of_ofWall? hn
  rw [readLax?] at h
  cases hdate : readDateTime? s.toList with
  | some reading =>
    rw [hdate] at h
    cases h
    obtain ⟨⟨day, rest⟩, -, hread⟩ := Option.bind_eq_some_iff.mp hdate
    simp only at hread
    split at hread
    · -- a date alone
      exact isWhole_of_none (hon hread)
    · split at hread
      · obtain ⟨⟨micros, rest⟩, -, hread⟩ := Option.bind_eq_some_iff.mp hread
        obtain ⟨offset, hoffset, hread⟩ := Option.bind_eq_some_iff.mp hread
        intro o ho
        rw [hon hread] at ho
        cases ho
        exact readOffset?_eq_some hoffset
      · cases hread
  | none =>
    rw [hdate] at h
    -- what is no date may still be a number
    have hnumber : readTimestamp? s.toList = some (.moment m) := h
    simp only [readTimestamp?] at hnumber
    split at hnumber
    · cases hnumber
    · split at hnumber
      · exact isWhole_of_universal (offset_of_readingAt? hnumber)
      · cases hnumber
    · obtain ⟨x, -, hx⟩ := Option.bind_eq_some_iff.mp hnumber
      exact isWhole_of_universal (offset_of_ofDouble? hx)
    · cases hnumber

end SessionGate.Moment

namespace SessionGate.Checked

theorem isWhole_of_moment {v : Json} {m : Moment} (h : moment v = valid m) : m.IsWhole := by
  have hreading {reading : Option Moment.Reading} {n : Moment}
      (hn : reading.bind Moment.Reading.moment? = some n) : reading = some (.moment n) := by
    rcases reading with _ | n | _ <;> cases hn
    rfl
  cases v with
  | str s =>
    obtain ⟨text, -, htext⟩ := unicode_eq_valid_iff.mp h
    rw [momentOfText] at htext
    split at htext
    · next n hn =>
      cases htext
      exact Moment.isWhole_of_readLax? hn
    · cases htext
    · cases htext
  | int n =>
    rw [moment] at h
    split at h
    · next moment hmoment =>
      cases h
      exact Moment.isWhole_of_universal (Moment.offset_of_readingAt? (hreading hmoment))
    · cases h
  | float x =>
    rw [moment] at h
    split at h
    · next moment hmoment =>
      cases h
      exact Moment.isWhole_of_universal (Moment.offset_of_ofDouble? (hreading hmoment))
    · cases h
  | _ => cases h

/-- A moment with a whole offset is read from its text in a field. -/
theorem moment_iso {m : Moment} (h : m.IsWhole) : moment (.str m.iso) = valid m := by
  rw [moment, unicode, momentOfText, Moment.readLax?_iso h]

end SessionGate.Checked
