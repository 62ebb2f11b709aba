import SessionGate.Text.Utf8

/-!
# Texts in UTF-8

Every character is written as one to four bytes, and `decodeUtf8` reads it back:
`decodeUtf8_encodeUtf8`.

The number of a character is cut into six bits for each byte after the first one, and what is left
of it goes into the first byte. Reading puts six bits below what was read so far, which is
`continuations_continuation`. Whether the second byte may follow the first one is where the bounds
come in: no number is written with more bytes than it needs, and none is that of a surrogate or past
the last one.
-/

namespace SessionGate.Text

/-! ## Bytes -/

theorem toNat_toUInt8 {n : Nat} (h : n < 256) : n.toUInt8.toNat = n :=
  UInt8.toNat_ofNat_of_lt' h

/-- How many bytes follow a first byte. -/
theorem continuationCount?_toUInt8 {n : Nat} (h : n < 256) :
    continuationCount? n.toUInt8 =
      if n < 0x80 then some 0 else if n < 0xC2 then none else if n < 0xE0 then some 1
      else if n < 0xF0 then some 2 else if n < 0xF5 then some 3 else none := by
  simp only [continuationCount?, UInt8.lt_iff_toNat_lt, toNat_toUInt8 h]
  rfl

theorem continuations_cons {b : UInt8} (hb : isContinuation b = true) (acc done count : Nat)
    (rest : Bytes) : continuations acc done (count + 1) (b :: rest) =
      continuations (pushBits acc b) (done + 1) count rest := by
  rw [continuations, if_pos hb]

/-- The byte that continues a character with six bits. -/
def continuation (bits : Nat) : UInt8 := (0x80 + bits).toUInt8

section Continuation

variable {bits : Nat} (h : bits < 64)
include h

theorem toNat_continuation : (continuation bits).toNat = 0x80 + bits :=
  toNat_toUInt8 (by omega)

theorem isContinuation_continuation : isContinuation (continuation bits) = true := by
  have hlow : (0x80 : UInt8) ≤ continuation bits := by
    have hvalue : (0x80 : UInt8).toNat = 0x80 := rfl
    rw [UInt8.le_iff_toNat_le, toNat_continuation h, hvalue]
    omega
  have hhigh : continuation bits < 0xC0 := by
    have hvalue : (0xC0 : UInt8).toNat = 0xC0 := rfl
    rw [UInt8.lt_iff_toNat_lt, toNat_continuation h, hvalue]
    omega
  rw [isContinuation, decide_eq_true hlow, decide_eq_true hhigh]
  rfl

/-- Six bits are put below those read so far. -/
theorem continuations_continuation (acc done count : Nat) (rest : Bytes) :
    continuations acc done (count + 1) (continuation bits :: rest) =
      continuations (acc * 64 + bits) (done + 1) count rest := by
  have hpush : pushBits acc (continuation bits) = acc * 64 + bits :=
    congrArg (acc * 64 + ·) (Nat.sub_eq_of_eq_add' (toNat_continuation h))
  rw [continuations_cons (isContinuation_continuation h), hpush]

/-- Which six bits may follow a first byte. -/
theorem mayFollow_continuation {n : Nat} (hn : n < 256) (hE0 : n = 0xE0 → 0x20 ≤ bits)
    (hED : n = 0xED → bits < 0x20) (hF0 : n = 0xF0 → 0x10 ≤ bits)
    (hF4 : n = 0xF4 → bits < 0x10) :
    mayFollow n.toUInt8 (continuation bits) = true := by
  have hbyte (k : Nat) (hk : k < 256) (h : n.toUInt8 = k.toUInt8) : n = k := by
    rw [← toNat_toUInt8 hn, h, toNat_toUInt8 hk]
  have hbelow {k : Nat} (hk : 0x80 + k < 256) (hbits : k ≤ bits) :
      ¬continuation bits < (0x80 + k).toUInt8 := by
    rw [UInt8.lt_iff_toNat_lt, toNat_continuation h, toNat_toUInt8 hk]
    omega
  have habove {k : Nat} (hk : 0x80 + k < 256) (hbits : bits < k) :
      ¬(0x80 + k).toUInt8 ≤ continuation bits := by
    rw [UInt8.le_iff_toNat_le, toNat_continuation h, toNat_toUInt8 hk]
    omega
  simp only [mayFollow, isContinuation_continuation h, Bool.true_and, Bool.and_eq_true,
    Bool.not_eq_true', Bool.and_eq_false_imp, beq_iff_eq, decide_eq_false_iff_not]
  exact ⟨⟨⟨fun hb ↦ hbelow (by decide) (hE0 (hbyte 0xE0 (by decide) hb)),
    fun hb ↦ habove (by decide) (hED (hbyte 0xED (by decide) hb))⟩,
    fun hb ↦ hbelow (by decide) (hF0 (hbyte 0xF0 (by decide) hb))⟩,
    fun hb ↦ habove (by decide) (hF4 (hbyte 0xF4 (by decide) hb))⟩

end Continuation

/-! ## Characters -/

/-- A first byte holds what is put on top of the number of its kind. -/
theorem leadBits_toUInt8 {base n count : Nat} (h : base + n < 256)
    (hbase : ∀ b, leadBits b count = b.toNat - base) : leadBits (base + n).toUInt8 count = n := by
  rw [hbase, toNat_toUInt8 h, Nat.add_sub_cancel_left]

/-- A first byte that is followed by others is read together with them. -/
theorem sequence_of_mayFollow {n count bits acc : Nat} (h : bits < 64)
    (hcount : continuationCount? n.toUInt8 = some (count + 1))
    (hlead : leadBits n.toUInt8 (count + 1) = acc)
    (hfollow : mayFollow n.toUInt8 (continuation bits) = true) (rest : Bytes) :
    sequence n.toUInt8 (continuation bits :: rest) =
      (continuations (acc * 64 + bits) 2 count rest).map (·, count + 1) := by
  rw [sequence, hcount]
  simp only [if_pos hfollow]
  rw [hlead, continuations_continuation h]

section Widths

variable {n : Nat}

theorem sequence_one (h : n < 0x80) (rest : Bytes) : sequence n.toUInt8 rest = .ok (n, 0) := by
  have hcount : continuationCount? n.toUInt8 = some 0 := by
    rw [continuationCount?_toUInt8 (by omega), if_pos h]
  rw [sequence, hcount]
  simp only [toNat_toUInt8 (by omega : n < 256)]

theorem sequence_two (hlow : 0x80 ≤ n) (hhigh : n < 0x800) (rest : Bytes) :
    sequence (0xC0 + n / 64).toUInt8 (continuation (n % 64) :: rest) = .ok (n, 1) := by
  have hcount : continuationCount? (0xC0 + n / 64).toUInt8 = some (0 + 1) := by
    rw [continuationCount?_toUInt8 (by omega), if_neg (by omega), if_neg (by omega),
      if_pos (by omega)]
  have hlead : leadBits (0xC0 + n / 64).toUInt8 (0 + 1) = n / 64 :=
    leadBits_toUInt8 (by omega) fun _ ↦ rfl
  have hlast : n % 64 < 64 := by omega
  have hfollow : mayFollow (0xC0 + n / 64).toUInt8 (continuation (n % 64)) = true :=
    mayFollow_continuation hlast (by omega) (by omega) (by omega) (by omega) (by omega)
  have hn : n / 64 * 64 + n % 64 = n := by omega
  rw [sequence_of_mayFollow hlast hcount hlead hfollow, continuations]
  simp only [hn]
  rfl

/-- Here the bounds of the second byte keep out the surrogates. -/
theorem sequence_three (hlow : 0x800 ≤ n) (hhigh : n < 0x10000)
    (hsurrogate : n < 0xD800 ∨ 0xDFFF < n) (rest : Bytes) :
    sequence (0xE0 + n / 4096).toUInt8
      (continuation (n / 64 % 64) :: continuation (n % 64) :: rest) = .ok (n, 2) := by
  have hcount : continuationCount? (0xE0 + n / 4096).toUInt8 = some (1 + 1) := by
    rw [continuationCount?_toUInt8 (by omega), if_neg (by omega), if_neg (by omega),
      if_neg (by omega), if_pos (by omega)]
  have hlead : leadBits (0xE0 + n / 4096).toUInt8 (1 + 1) = n / 4096 :=
    leadBits_toUInt8 (by omega) fun _ ↦ rfl
  have hsecond : n / 64 % 64 < 64 := by omega
  have hlast : n % 64 < 64 := by omega
  have hfollow : mayFollow (0xE0 + n / 4096).toUInt8 (continuation (n / 64 % 64)) = true :=
    mayFollow_continuation hsecond (by omega) (by omega) (by omega) (by omega) (by omega)
  have hn : (n / 4096 * 64 + n / 64 % 64) * 64 + n % 64 = n := by omega
  rw [sequence_of_mayFollow hsecond hcount hlead hfollow, continuations_continuation hlast,
    continuations]
  simp only [hn]
  rfl

/-- Here they keep out what is past the last character. -/
theorem sequence_four (hlow : 0x10000 ≤ n) (hhigh : n < 0x110000) (rest : Bytes) :
    sequence (0xF0 + n / 262144).toUInt8
      (continuation (n / 4096 % 64) :: continuation (n / 64 % 64) :: continuation (n % 64) ::
        rest) = .ok (n, 3) := by
  have hcount : continuationCount? (0xF0 + n / 262144).toUInt8 = some (2 + 1) := by
    rw [continuationCount?_toUInt8 (by omega), if_neg (by omega), if_neg (by omega),
      if_neg (by omega), if_neg (by omega), if_pos (by omega)]
  have hlead : leadBits (0xF0 + n / 262144).toUInt8 (2 + 1) = n / 262144 :=
    leadBits_toUInt8 (by omega) fun _ ↦ rfl
  have hsecond : n / 4096 % 64 < 64 := by omega
  have hthird : n / 64 % 64 < 64 := by omega
  have hlast : n % 64 < 64 := by omega
  have hfollow : mayFollow (0xF0 + n / 262144).toUInt8 (continuation (n / 4096 % 64)) = true :=
    mayFollow_continuation hsecond (by omega) (by omega) (by omega) (by omega) (by omega)
  have hn : ((n / 262144 * 64 + n / 4096 % 64) * 64 + n / 64 % 64) * 64 + n % 64 = n := by omega
  rw [sequence_of_mayFollow hsecond hcount hlead hfollow, continuations_continuation hthird,
    continuations_continuation hlast, continuations]
  simp only [hn]
  rfl

end Widths

/-- The bytes of a character are read as its number. -/
theorem sequence_charBytes (c : Char) :
    ∃ b bs, charBytes c = b :: bs ∧
      ∀ rest, sequence b (bs ++ rest) = .ok (c.toNat, bs.length) := by
  have hvalid : c.toNat < 0xD800 ∨ (0xDFFF < c.toNat ∧ c.toNat < 0x110000) := c.valid
  rw [charBytes]
  generalize c.toNat = n at hvalid ⊢
  by_cases hone : n < 0x80
  · rw [if_pos hone]
    exact ⟨_, _, rfl, sequence_one hone⟩
  rw [if_neg hone]
  by_cases htwo : n < 0x800
  · rw [if_pos htwo]
    exact ⟨_, _, rfl, sequence_two (by omega) htwo⟩
  rw [if_neg htwo]
  by_cases hthree : n < 0x10000
  · rw [if_pos hthree]
    exact ⟨_, _, rfl, sequence_three (by omega) hthree (by omega)⟩
  · rw [if_neg hthree]
    exact ⟨_, _, rfl, sequence_four (by omega) (by omega)⟩

theorem decodeUtf8From_encodeUtf8 (cs : List Char) (pos : Nat) :
    decodeUtf8From pos (encodeUtf8 cs) = .ok cs := by
  induction cs generalizing pos with
  | nil => rw [encodeUtf8, List.flatMap_nil, decodeUtf8From]
  | cons c cs ih =>
    obtain ⟨b, bs, hbytes, hread⟩ := sequence_charBytes c
    rw [encodeUtf8, List.flatMap_cons, hbytes, List.cons_append, ← encodeUtf8, decodeUtf8From,
      hread]
    simp only [List.drop_left, ih, Char.ofNat_toNat]
    rfl

/-- **A text is read back from its bytes.** -/
theorem decodeUtf8_encodeUtf8 (cs : List Char) : decodeUtf8 (encodeUtf8 cs) = .ok cs :=
  decodeUtf8From_encodeUtf8 cs 0

end SessionGate.Text
