import SessionGate.Text.Encoding

/-!
# Documents of ASCII

What the library writes itself is ASCII, whose characters are one byte each. `decodeDocument` finds
an object of such bytes to be in UTF-8 and reads back the characters that were encoded. The zero is
left out, since it is what tells the other encodings.
-/

namespace SessionGate.Text

/-- A character of ASCII other than the zero. -/
def IsAscii (c : Char) : Prop := 0 < c.toNat ∧ c.toNat < 0x80

instance (c : Char) : Decidable (IsAscii c) := inferInstanceAs (Decidable (_ ∧ _))

theorem IsAscii.charBytes_eq {c : Char} (h : IsAscii c) :
    ∃ b, charBytes c = [b] ∧ b.toNat = c.toNat ∧ b ≠ 0 ∧ b < 0x80 := by
  have hsize : c.toNat < 256 := Nat.lt_trans h.2 (by decide)
  have hvalue : c.toNat.toUInt8.toNat = c.toNat := UInt8.toNat_ofNat_of_lt' hsize
  refine ⟨c.toNat.toUInt8, if_pos h.2, hvalue, ?_, ?_⟩
  · intro hzero
    rw [hzero] at hvalue
    exact absurd h.1 (Nat.not_lt.mpr (Nat.le_of_eq hvalue.symm))
  · rw [UInt8.lt_iff_toNat_lt, hvalue]
    exact h.2

namespace Encoding

/-- The first two bytes of an object tell that it is in UTF-8. -/
theorem detect_of_brace {b : UInt8} (hb : b ≠ 0) (rest : Bytes) :
    detect (0x7b :: b :: rest) = (.utf8, 0) := by
  match rest with
  | [] => exact if_neg hb
  | [_] => rfl
  | _ :: _ :: _ => exact if_neg hb

theorem sequence_of_ascii {b : UInt8} (h : b < 0x80) (rest : Bytes) :
    sequence b rest = .ok (b.toNat, 0) := by
  have hcount : continuationCount? b = some 0 := if_pos h
  rw [sequence]
  simp only [hcount]

theorem surrogate?_of_ascii {b : UInt8} (h : b < 0x80) (second third : UInt8) :
    surrogate? b second third = none := by
  have hne : b ≠ 0xED := by
    rintro rfl
    exact absurd h (by decide)
  rw [surrogate?, beq_eq_false_iff_ne.mpr hne]
  rfl

theorem lenientUtf8_encodeUtf8 {cs : List Char} (h : ∀ c ∈ cs, IsAscii c) (pos : Nat) :
    lenientUtf8 pos (encodeUtf8 cs) = .ok (CodePoint.ofChars cs) := by
  induction cs generalizing pos with
  | nil =>
    rw [encodeUtf8, List.flatMap_nil, lenientUtf8]
    rfl
  | cons c cs ih =>
    obtain ⟨hc, hcs⟩ := List.forall_mem_cons.mp h
    obtain ⟨b, hbytes, hvalue, -, hsmall⟩ := hc.charBytes_eq
    rw [encodeUtf8, List.flatMap_cons, hbytes, List.singleton_append, ← encodeUtf8, lenientUtf8,
      surrogate?_of_ascii hsmall]
    simp only [sequence_of_ascii hsmall, List.drop_zero, ih hcs, hvalue, Char.ofNat_toNat]
    rfl

end Encoding

/-- An object of ASCII is decoded as what was encoded. -/
theorem decodeDocument_encodeUtf8 {c : Char} {cs : List Char}
    (h : ∀ d ∈ '\x7b' :: c :: cs, IsAscii d) :
    decodeDocument (encodeUtf8 ('\x7b' :: c :: cs)) =
      .ok (CodePoint.ofChars ('\x7b' :: c :: cs)) := by
  obtain ⟨b, hbytes, -, hne, -⟩ := (h c (by simp)).charBytes_eq
  have hdetect : Encoding.detect (encodeUtf8 ('\x7b' :: c :: cs)) = (.utf8, 0) := by
    rw [encodeUtf8, List.flatMap_cons, List.flatMap_cons, hbytes]
    exact Encoding.detect_of_brace hne _
  rw [decodeDocument, hdetect]
  exact Encoding.lenientUtf8_encodeUtf8 h 0

/-- Whether all letters are of ASCII can be computed. -/
theorem isAscii_of_all {cs : List Char} (h : cs.all (fun c ↦ decide (IsAscii c)) = true) :
    ∀ c ∈ cs, IsAscii c :=
  fun c hc ↦ of_decide_eq_true (List.all_eq_true.mp h c hc)

end SessionGate.Text
