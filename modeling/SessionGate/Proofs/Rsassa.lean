import Mathlib.Algebra.Group.Nat.Defs
import SessionGate.Proofs.JsonEquality
import SessionGate.Proofs.Steps
import SessionGate.Verifier.Key

/-!
# What a valid signature is

Signatures are checked by square and multiply on a key that was read from text. Two things are said
here apart from how they are computed: `Rsa.Signs` is the equation between a signature and a message
under a key, and `Members.HoldsNumber` is a number that stands in an entry. The check decides the
first (`Rsa.verify_eq_true_iff`), and a key that was read from an entry consists of the second
(`VerificationKey.rsaOfMembers_eq_ok`).

An exponent that is left out is read as bytes which are no letters, and never makes a number. So an
entry that gives a key has both of its numbers, although only one of them is asked for.
-/

namespace SessionGate

open Text

/-! ## Powers -/

namespace Primes

/-- The last `bits` binary digits are the whole exponent if it is below `2 ^ bits`. -/
theorem powBits_eq (n : Nat) {bits e : Nat} (b : Nat) (h : e < 2 ^ bits) :
    powBits n bits b e = b ^ e % n := by
  induction bits generalizing b e with
  | zero =>
    have he : e = 0 := by omega
    rw [powBits, he, Nat.pow_zero]
  | succ bits ih =>
    have hhalf : e / 2 < 2 ^ bits := by omega
    have hsquare : powBits n bits (b * b % n) (e / 2) = b ^ (2 * (e / 2)) % n := by
      rw [ih (b * b % n) hhalf, ← Nat.pow_mod, ← Nat.pow_two, ← Nat.pow_mul]
    simp only [powBits, hsquare]
    -- the last digit says whether the base is a factor once more
    by_cases hodd : e % 2 = 1
    · have he : e = 2 * (e / 2) + 1 := by omega
      rw [if_pos hodd, Nat.mul_mod_mod, Nat.mul_comm, ← Nat.pow_succ, Nat.succ_eq_add_one, ← he]
    · have he : e = 2 * (e / 2) := by omega
      rw [if_neg hodd, ← he]

theorem powMod_eq (b e n : Nat) : powMod b e n = b ^ e % n := by
  rw [powMod, powBits_eq n (b % n) Nat.lt_log2_self, ← Nat.pow_mod]

end Primes

/-! ## Signatures -/

namespace Rsa

/-- The signature is one of the message by RSASSA-PKCS1-v1_5: it is as long as the modulus and less
than it, and its power is the encoding of the message that fills the modulus. -/
structure Signs (key : PublicKey) (h : Hash) (message signature : Bytes) : Prop where
  length_eq : signature.length = byteLength key.modulus
  lt_modulus : Sha2.ofBigEndian signature < key.modulus
  power : ∃ block, encoded? h (byteLength key.modulus) message = some block ∧
    Sha2.ofBigEndian signature ^ key.exponent % key.modulus = Sha2.ofBigEndian block

theorem verify_eq_true_iff {key : PublicKey} {h : Hash} {message signature : Bytes} :
    verify key h message signature = true ↔
      key.isUsable = true ∧ Signs key h message signature := by
  rw [verify]
  cases hblock : encoded? h (byteLength key.modulus) message with
  | none =>
    refine iff_of_false (fun hverify ↦ (nomatch hverify)) ?_
    rintro ⟨-, -, -, block, hsome, -⟩
    rw [hblock] at hsome
    cases hsome
  | some block =>
    simp only [Bool.and_eq_true, beq_iff_eq, decide_eq_true_eq, Primes.powMod_eq]
    constructor
    · rintro ⟨⟨⟨husable, hlength⟩, hlt⟩, hpower⟩
      exact ⟨husable, hlength, hlt, block, hblock, hpower⟩
    · rintro ⟨husable, hlength, hlt, other, hother, hpower⟩
      rw [hblock] at hother
      cases hother
      exact ⟨⟨⟨husable, hlength⟩, hlt⟩, hpower⟩

end Rsa

/-! ## Keys in entries -/

/-- A member of a key entry holds a number. -/
def Members.HoldsNumber (ms : Members) (name : String) (n : Nat) : Prop :=
  ∃ v, ms.get? name = some v ∧ VerificationKey.number v = .ok n

namespace VerificationKey

theorem numberMember_eq_ok_iff {ms : Members} {name : String} {default : Json} {n : Nat}
    (hdefault : number default ≠ .ok n) :
    numberMember ms name default = .ok n ↔ ms.HoldsNumber name n := by
  rw [numberMember, mapError_eq_ok_iff, Members.HoldsNumber]
  cases ms.get? name with
  | none => exact iff_of_false hdefault (fun ⟨_, h, _⟩ ↦ (nomatch h))
  | some v => simp

theorem number_noExponent (n : Nat) : number noExponent ≠ .ok n := by
  have h : number noExponent = .error .badKeyNumber := rfl
  rw [h]
  exact fun heq ↦ (nomatch heq)

theorem number_null (n : Nat) : number .null ≠ .ok n :=
  fun h ↦ (nomatch h)

/-- An entry that gives an RSA key says that it is one and holds both of its numbers. -/
theorem rsaOfMembers_eq_ok {ms : Members} {key : Rsa.PublicKey} (h : rsaOfMembers ms = .ok key) :
    ms.get? "kty" = some (.str "RSA") ∧ ms.HoldsNumber "n" key.modulus ∧
      ms.HoldsNumber "e" key.exponent := by
  rw [rsaOfMembers] at h
  by_cases hkind : (ms.get "kty").same (.str "RSA") = true
  · simp only [if_pos hkind] at h
    obtain ⟨exponent, hexponent, h⟩ := bind_eq_ok_iff.mp h
    obtain ⟨modulus, hmodulus, h⟩ := bind_eq_ok_iff.mp h
    obtain ⟨secret, -, h⟩ := bind_eq_ok_iff.mp h
    have hkey : key = ⟨modulus, exponent⟩ := by
      by_cases hsound : areSound ⟨modulus, exponent⟩ secret = true
      · rw [if_pos hsound] at h
        cases h
        rfl
      · rw [if_neg hsound] at h
        cases h
    subst hkey
    exact ⟨Members.get?_of_get_str ((Json.same_str_iff _ _).mp hkind),
      (numberMember_eq_ok_iff (number_null modulus)).mp hmodulus,
      (numberMember_eq_ok_iff (number_noExponent exponent)).mp hexponent⟩
  · simp only [if_neg hkind] at h
    cases h

end VerificationKey

end SessionGate
