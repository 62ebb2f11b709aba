import Mathlib.Data.List.Chain
import SessionGate.Json.Printer
import SessionGate.Json.Reader
import SessionGate.Proofs.Ascii
import SessionGate.Proofs.CodePoints
import SessionGate.Proofs.Steps

/-!
# Strings in JSON text

A character of a string is written as itself, as a short escape or as the escapes of its code units,
and `stringBody` reads it back from each of them. A character past the basic plane has two units,
which are a pair of surrogates that the reader joins again: `stringBody_unicodeEscape`. What is
written is ASCII.

A surrogate on its own is written as the escape of its unit. Two of them side by side that are the
halves of a pair are read as the character of the pair, so a text with such halves is not read back,
and `Text.IsJoined` says that there are none.
-/

namespace SessionGate

namespace Text

/-! ## Escapes -/

theorem hexDigit?_digitChar : ∀ {n : Nat}, n < 16 → hexDigit? (Nat.digitChar n) = some n := by
  decide

/-- The last four hexadecimal digits of a number. -/
theorem hexDigits_four (n : Nat) :
    hexDigits 4 n = [Nat.digitChar (n / 4096 % 16), Nat.digitChar (n / 256 % 16),
      Nat.digitChar (n / 16 % 16), Nat.digitChar (n / 1 % 16)] := rfl

/-- The first of two code points is not the first half of a pair whose second half is the other. -/
def AreApart (p q : CodePoint) : Prop :=
  isHighSurrogate p.toNat = true → isLowSurrogate q.toNat = false

instance (p q : CodePoint) : Decidable (AreApart p q) :=
  inferInstanceAs (Decidable (_ → _))

/-- No two halves of a pair stand side by side. -/
def IsJoined (t : Text) : Prop :=
  t.points.IsChain AreApart

instance (t : Text) : Decidable t.IsJoined :=
  inferInstanceAs (Decidable (List.IsChain _ _))

/-- A character is no surrogate. -/
theorem not_isHighSurrogate (c : Char) : isHighSurrogate c.toNat = false := by
  have hvalid : c.toNat < 0xD800 ∨ (0xDFFF < c.toNat ∧ c.toNat < 0x110000) := c.valid
  simp only [isHighSurrogate, Bool.and_eq_false_iff, decide_eq_false_iff_not]
  omega

/-- Characters are joined already. -/
theorem isJoined_plain (s : String) : IsJoined (.plain s) := by
  refine List.Pairwise.isChain (List.pairwise_of_forall_mem_list fun p hp q _ hhigh ↦ ?_)
  obtain ⟨c, -, rfl⟩ := List.mem_map.mp hp
  exact absurd hhigh (by simp [CodePoint.toNat, not_isHighSurrogate])

end Text

namespace Json

open Text CodePoint

theorem hex4?_digitChar {n : Nat} (h : n < 65536) :
    hex4? (.char (Nat.digitChar (n / 4096 % 16))) (.char (Nat.digitChar (n / 256 % 16)))
      (.char (Nat.digitChar (n / 16 % 16))) (.char (Nat.digitChar (n / 1 % 16))) = some n := by
  have hdigit (k : Nat) : hexDigit? (Nat.digitChar (k % 16)) = some (k % 16) :=
    hexDigit?_digitChar (Nat.mod_lt k (by decide))
  have hvalue : ((n / 4096 % 16 * 16 + n / 256 % 16) * 16 + n / 16 % 16) * 16 + n / 1 % 16 = n := by
    omega
  simp only [hex4?, char?, hdigit, Option.bind_eq_bind, Option.bind_some, Option.pure_def, hvalue]

variable {opening rest after ps : List CodePoint}

/-- The escape of a unit is read with what completes it. -/
theorem stringBody_unit {unit : Nat} (hunit : unit < 65536) {x : CodePoint} :
    stringBody opening (ofChars ('\\' :: 'u' :: hexDigits 4 unit) ++ x :: rest) = (do
      let (p, used) ← completeUnit unit (x :: rest)
      let (ps, after) ← stringBody opening ((x :: rest).drop used)
      return (p :: ps, after)) := by
  rw [hexDigits_four]
  simp only [ofChars_cons, ofChars_nil, List.cons_append, List.nil_append]
  rw [stringBody, hex4?_digitChar hunit]

/-- The units of a character beyond the basic plane are a pair of surrogates that stands for it. -/
theorem surrogates_of_unitsOf {c : Char} (h : ¬c.toNat < 0x10000) :
    ∃ high low, unitsOf c.toNat = [high, low] ∧ high < 0x10000 ∧ low < 0x10000 ∧
      isHighSurrogate high = true ∧ isLowSurrogate low = true ∧ joinSurrogates high low = c := by
  have hvalid : c.toNat < 0xD800 ∨ (0xDFFF < c.toNat ∧ c.toNat < 0x110000) := c.valid
  have hvalue : 0x10000 + (0xD800 + (c.toNat - 0x10000) / 0x400 - 0xD800) * 0x400 +
      (0xDC00 + (c.toNat - 0x10000) % 0x400 - 0xDC00) = c.toNat := by omega
  refine ⟨0xD800 + (c.toNat - 0x10000) / 0x400, 0xDC00 + (c.toNat - 0x10000) % 0x400, ?_, ?_, ?_,
    ?_, ?_, ?_⟩
  · rw [unitsOf, if_neg h]
  · omega
  · omega
  · simp only [isHighSurrogate, Bool.and_eq_true, decide_eq_true_eq]
    omega
  · simp only [isLowSurrogate, Bool.and_eq_true, decide_eq_true_eq]
    omega
  · rw [joinSurrogates, hvalue, Char.ofNat_toNat]

/-- A unit that is no first half stands for itself. -/
theorem completeUnit_of_not_high {unit : Nat} (h : isHighSurrogate unit = false) :
    completeUnit unit rest = .ok (.ofNat unit, 0) := by
  rw [completeUnit]
  simp [h]

/-- The escape of a character is read as the character. -/
theorem stringBody_unicodeEscape (c : Char) (h : stringBody opening rest = .ok (ps, after)) :
    stringBody opening (ofChars (unicodeEscape c.toNat) ++ rest) = .ok (.char c :: ps, after) := by
  cases rest with
  -- an escape is only read with something behind it, at least the closing quote
  | nil => rw [stringBody] at h; cases h
  | cons x rest =>
    by_cases hbasic : c.toNat < 0x10000
    · have hcomplete : completeUnit c.toNat (x :: rest) = .ok (.char c, 0) := by
        rw [completeUnit_of_not_high (not_isHighSurrogate c), ofNat_toNat]
      rw [unicodeEscape, unitsOf, if_pos hbasic, List.flatMap_singleton, stringBody_unit hbasic]
      exact bind_eq_ok_iff.mpr ⟨(.char c, 0), hcomplete, bind_eq_ok_iff.mpr ⟨(ps, after), h, rfl⟩⟩
    · obtain ⟨high, low, hunits, hhigh, hlow, hisHigh, hisLow, hjoin⟩ :=
        surrogates_of_unitsOf hbasic
      have hcomplete : completeUnit high
          (ofChars ('\\' :: 'u' :: hexDigits 4 low) ++ x :: rest) = .ok (.char c, 6) := by
        rw [hexDigits_four]
        simp only [ofChars_cons, ofChars_nil, List.cons_append, List.nil_append, completeUnit,
          hisHigh, hex4?_digitChar hlow, hisLow, if_true, hjoin]
      have hdrop : (ofChars ('\\' :: 'u' :: hexDigits 4 low) ++ x :: rest).drop 6 = x :: rest :=
        rfl
      rw [← hdrop] at h
      rw [unicodeEscape, hunits, List.flatMap_cons, List.flatMap_singleton, ofChars_append,
        List.append_assoc]
      refine Eq.trans (stringBody_unit hhigh) ?_
      exact bind_eq_ok_iff.mpr
        ⟨(.char c, 6), hcomplete, bind_eq_ok_iff.mpr ⟨(ps, after), h, rfl⟩⟩

/-- The escape of a surrogate is read as the surrogate, unless what follows completes it. -/
theorem stringBody_lone (s : Surrogate) (hrest : completeUnit s.value rest = .ok (.lone s, 0))
    (h : stringBody opening rest = .ok (ps, after)) :
    stringBody opening (ofChars (escapePoint (.lone s)) ++ rest) = .ok (.lone s :: ps, after) := by
  have hbasic : s.value < 0x10000 := Nat.lt_trans s.inRange.2 (by decide)
  cases rest with
  | nil => rw [stringBody] at h; cases h
  | cons x rest =>
    rw [escapePoint, unicodeEscape, unitsOf, if_pos hbasic, List.flatMap_singleton,
      stringBody_unit hbasic]
    exact bind_eq_ok_iff.mpr ⟨(.lone s, 0), hrest, bind_eq_ok_iff.mpr ⟨(ps, after), h, rfl⟩⟩

/-- A character is written as a short escape, as itself or as an escape of its units. -/
theorem escapeChar_cases (c : Char) :
    (∃ letter, shortEscape? letter = some c ∧ IsAscii letter ∧ escapeChar c = ['\\', letter]) ∨
      (c ≠ '"' ∧ c ≠ '\\' ∧ 0x20 ≤ c.toNat ∧ c.toNat < 0x7f ∧ escapeChar c = [c]) ∨
      escapeChar c = unicodeEscape c.toNat := by
  by_cases hshort : c ∈ ['"', '\\', '\n', '\r', '\t', '\x0c', '\x08']
  · refine .inl ?_
    simp only [List.mem_cons, List.not_mem_nil, or_false] at hshort
    rcases hshort with rfl | rfl | rfl | rfl | rfl | rfl | rfl
    · exact ⟨'"', rfl, by decide, rfl⟩
    · exact ⟨'\\', rfl, by decide, rfl⟩
    · exact ⟨'n', rfl, by decide, rfl⟩
    · exact ⟨'r', rfl, by decide, rfl⟩
    · exact ⟨'t', rfl, by decide, rfl⟩
    · exact ⟨'f', rfl, by decide, rfl⟩
    · exact ⟨'b', rfl, by decide, rfl⟩
  · refine .inr ?_
    simp only [List.mem_cons, List.not_mem_nil, or_false, not_or] at hshort
    obtain ⟨hquote, hslash, hn, hr, ht, hf, hb⟩ := hshort
    rw [escapeChar, if_neg hquote, if_neg hslash, if_neg hn, if_neg hr, if_neg ht, if_neg hf,
      if_neg hb]
    by_cases hplain : 0x20 ≤ c.toNat ∧ c.toNat < 0x7f
    · exact .inl ⟨hquote, hslash, hplain.1, hplain.2, if_pos hplain⟩
    · exact .inr (if_neg hplain)

/-- A character is read from its short escape. -/
theorem stringBody_shortEscape {c letter : Char} (hletter : shortEscape? letter = some c)
    (h : stringBody opening rest = .ok (ps, after)) :
    stringBody opening (ofChars ['\\', letter] ++ rest) = .ok (.char c :: ps, after) := by
  have hne : letter ≠ 'u' := by
    rintro rfl
    cases hletter
  simp only [ofChars_cons, ofChars_nil, List.cons_append, List.nil_append]
  cases rest with
  | nil => rw [stringBody] at h; cases h
  | cons x rest =>
    rw [stringBody]
    · simp only [char?, Option.bind_some, hletter]
      exact bind_eq_ok_iff.mpr ⟨(ps, after), h, rfl⟩
    · simp [hne]
    · simp [hne]

/-- A character is read from how it is written inside a string. -/
theorem stringBody_escapeChar (c : Char) (h : stringBody opening rest = .ok (ps, after)) :
    stringBody opening (ofChars (escapeChar c) ++ rest) = .ok (.char c :: ps, after) := by
  obtain ⟨letter, hletter, -, hescape⟩ | ⟨hquote, hslash, hprints, -, hescape⟩ | hescape :=
    escapeChar_cases c
  · rw [hescape]
    exact stringBody_shortEscape hletter h
  · have hnot : ¬(CodePoint.char c).toNat < 0x20 := Nat.not_lt.mpr hprints
    rw [hescape, ofChars_cons, ofChars_nil, List.singleton_append, stringBody]
    · rw [if_neg hnot]
      exact bind_eq_ok_iff.mpr ⟨(ps, after), h, rfl⟩
    all_goals simp [hquote, hslash]
  · rw [hescape]
    exact stringBody_unicodeEscape c h

/-- The first unit of a code point is the second half of a pair only if the code point is. -/
theorem unicodeEscape_first {p : CodePoint} (h : isLowSurrogate p.toNat = false) :
    ∃ unit more, unicodeEscape p.toNat = '\\' :: 'u' :: hexDigits 4 unit ++ more ∧
      unit < 0x10000 ∧ isLowSurrogate unit = false := by
  by_cases hbasic : p.toNat < 0x10000
  · refine ⟨p.toNat, [], ?_, hbasic, h⟩
    rw [unicodeEscape, unitsOf, if_pos hbasic, List.flatMap_singleton, List.append_nil]
  · cases p with
    | lone s => exact absurd (Nat.lt_trans s.inRange.2 (by decide)) hbasic
    | char c =>
      obtain ⟨high, low, hunits, hbound, -, hhigh, -, -⟩ := surrogates_of_unitsOf hbasic
      refine ⟨high, '\\' :: 'u' :: hexDigits 4 low, ?_, hbound, ?_⟩
      · rw [unicodeEscape, CodePoint.toNat, hunits, List.flatMap_cons, List.flatMap_singleton]
      · simp only [isHighSurrogate, Bool.and_eq_true, decide_eq_true_eq] at hhigh
        simp only [isLowSurrogate, Bool.and_eq_false_iff, decide_eq_false_iff_not]
        omega

/-- A unit is not completed by the escape of a unit that is no second half. -/
theorem completeUnit_escape {unit next : Nat} (hnext : next < 0x10000)
    (hlow : isLowSurrogate next = false) {x : CodePoint} :
    completeUnit unit (ofChars ('\\' :: 'u' :: hexDigits 4 next) ++ x :: rest) =
      .ok (.ofNat unit, 0) := by
  rw [hexDigits_four]
  simp only [ofChars_cons, ofChars_nil, List.cons_append, List.nil_append]
  cases hunit : isHighSurrogate unit with
  | false => exact completeUnit_of_not_high hunit
  | true =>
    simp only [completeUnit, hunit, hex4?_digitChar hnext, hlow, Bool.false_eq_true, if_false]

/-- A unit is not completed by a code point that is no second half, however that is written. -/
theorem completeUnit_escapePoint {unit : Nat} {p x : CodePoint}
    (h : isLowSurrogate p.toNat = false) :
    completeUnit unit (ofChars (escapePoint p) ++ x :: rest) = .ok (.ofNat unit, 0) := by
  have hescaped : completeUnit unit (ofChars (unicodeEscape p.toNat) ++ x :: rest) =
      .ok (.ofNat unit, 0) := by
    obtain ⟨next, more, hescape, hnext, hlow⟩ := unicodeEscape_first h
    rw [hescape, ofChars_append, List.append_assoc]
    cases more with
    | nil => exact completeUnit_escape hnext hlow
    | cons d more => exact completeUnit_escape hnext hlow
  cases p with
  | lone s => exact hescaped
  | char c =>
    rw [escapePoint]
    obtain ⟨letter, hletter, -, hescape⟩ | ⟨-, hslash, -, -, hescape⟩ | hescape :=
      escapeChar_cases c
    · have hne : letter ≠ 'u' := by
        rintro rfl
        cases hletter
      rw [hescape, completeUnit]
      simp [hne]
    · rw [hescape, completeUnit]
      simp [hslash]
    · rw [hescape]
      exact hescaped

/-- **A quoted text is read as the text.** The induction is on its code points, and what is written
after a surrogate begins with what does not complete it. -/
theorem stringBody_quote {text : List CodePoint} (htext : text.IsChain AreApart)
    (rest : List CodePoint) :
    stringBody opening (ofChars (text.flatMap escapePoint) ++ .char '"' :: rest) =
      .ok (text, rest) := by
  induction text with
  | nil => rw [List.flatMap_nil, ofChars_nil, List.nil_append, stringBody]
  | cons p text ih =>
    have hbody := ih htext.tail
    rw [List.flatMap_cons, ofChars_append, List.append_assoc]
    cases p with
    | char c => exact stringBody_escapeChar c hbody
    | lone s =>
      refine stringBody_lone s ?_ hbody
      cases hhigh : isHighSurrogate s.value with
      | false => rw [completeUnit_of_not_high hhigh, ofNat_value]
      | true =>
        rw [← ofNat_value]
        cases text with
        | nil => simp [completeUnit]
        | cons q text =>
          have hlow : isLowSurrogate q.toNat = false :=
            (List.isChain_cons_cons.mp htext).1 hhigh
          rw [List.flatMap_cons, ofChars_append, List.append_assoc]
          cases hafter : ofChars (text.flatMap escapePoint) ++ .char '"' :: rest with
          | nil => cases (List.append_eq_nil_iff.mp hafter).2
          | cons x after => exact completeUnit_escapePoint hlow

/-- A quoted text is read as the text, and what follows it is left. -/
theorem stringBody_of_quote {s : Text} (hs : s.IsJoined) (rest : List Char) :
    ∃ body, ofChars (quote s ++ rest) = .char '"' :: body ∧
      stringBody opening body = .ok (s.points, ofChars rest) := by
  refine ⟨_, ?_, stringBody_quote hs (ofChars rest)⟩
  simp only [quote, List.cons_append, List.append_assoc, List.nil_append, ofChars_cons,
    ofChars_append]

theorem isAscii_digitChar {n : Nat} : n < 16 → IsAscii (Nat.digitChar n) := by
  revert n
  decide

theorem isAscii_unicodeEscape {n : Nat} {d : Char} (h : d ∈ unicodeEscape n) : IsAscii d := by
  obtain ⟨unit, -, hd⟩ := List.mem_flatMap.mp h
  rw [hexDigits_four] at hd
  have hdigit (k : Nat) : IsAscii (Nat.digitChar (k % 16)) :=
    isAscii_digitChar (Nat.mod_lt k (by decide))
  simp only [List.mem_cons, List.not_mem_nil, or_false] at hd
  rcases hd with rfl | rfl | rfl | rfl | rfl | rfl
  · decide
  · decide
  all_goals exact hdigit _

theorem isAscii_escapeChar {c d : Char} (h : d ∈ escapeChar c) : IsAscii d := by
  obtain ⟨letter, -, hletter, hescape⟩ | ⟨-, -, hfrom, hto, hescape⟩ | hescape :=
    escapeChar_cases c
  · rw [hescape, List.mem_cons, List.mem_singleton] at h
    rcases h with rfl | rfl
    · decide
    · exact hletter
  · rw [hescape, List.mem_singleton] at h
    rw [h]
    exact ⟨by omega, by omega⟩
  · rw [hescape] at h
    exact isAscii_unicodeEscape h

theorem isAscii_escapePoint {p : CodePoint} {d : Char} (h : d ∈ escapePoint p) : IsAscii d := by
  cases p with
  | char c => exact isAscii_escapeChar h
  | lone s => exact isAscii_unicodeEscape h

theorem isAscii_quote {s : Text} {d : Char} (h : d ∈ quote s) : IsAscii d := by
  rw [quote, List.mem_append, List.mem_cons, List.mem_singleton] at h
  rcases h with (rfl | h) | rfl
  · decide
  · obtain ⟨p, -, hd⟩ := List.mem_flatMap.mp h
    exact isAscii_escapePoint hd
  · decide

end Json

end SessionGate
