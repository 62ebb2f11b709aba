import SessionGate.Proofs.Acceptance
import SessionGate.Proofs.SignedClaims

/-!
# When a verification breaks down

A verification should end with claims or with a refusal. It does not always: some faults are
defects, and then neither the verifier answers nor anybody who asked it for a yes or a no.
`Verifier.BreaksDown` says when that is, in terms of the document, the entry, the payload and the
claims, and `Provider.verification_answers_iff` says that there is no other way.

## What is guarded and what is not

A source that fails and a document that is no object are refused. But nobody looks whether the
document has a list of keys, whether the numbers of a key can be read, or whether a time in the
claims is one: a document with `keys` null breaks down on every token, and a token whose expiry is
null breaks down although it is signed.
-/

namespace SessionGate

open Text

/-! ## Faults -/

/-- Nobody answers for the fault. -/
def KeyFault.IsDefect (fault : KeyFault) : Prop :=
  ∃ d, fault = .defect d

/-- Nobody answers for the fault. -/
def ClaimFault.IsDefect (fault : ClaimFault) : Prop :=
  ∃ d, fault = .defect d

namespace VerificationFault

/-- Nobody answers for the fault. -/
def IsDefect (fault : VerificationFault) : Prop :=
  ∃ d, fault.toFailure = .defect d

@[simp] theorem isDefect_defect (d : Defect) : (defect d).IsDefect := ⟨d, rfl⟩

@[simp] theorem isDefect_badKey_iff {fault : KeyFault} :
    (badKey fault).IsDefect ↔ fault.IsDefect := by
  cases fault with
  | defect d => exact iff_of_true ⟨d, rfl⟩ ⟨d, rfl⟩
  | _ => exact iff_of_false (fun ⟨_, h⟩ ↦ (nomatch h)) (fun ⟨_, h⟩ ↦ (nomatch h))

@[simp] theorem isDefect_claim_iff {fault : ClaimFault} :
    (claim fault).IsDefect ↔ fault.IsDefect := by
  cases fault with
  | defect d => exact iff_of_true ⟨d, rfl⟩ ⟨d, rfl⟩
  | _ => exact iff_of_false (fun ⟨_, h⟩ ↦ (nomatch h)) (fun ⟨_, h⟩ ↦ (nomatch h))

end VerificationFault

open VerificationFault (IsDefect)

/-! ## Entries -/

/-- The object has `keys` which cannot be run through: a null, a truth value or a number. -/
def Members.HasUnlistedKeys (ms : Members) : Prop :=
  ∃ v, ms.get? "keys" = some v ∧
    (v = .null ∨ (∃ b, v = .bool b) ∨ (∃ n, v = .int n) ∨ ∃ x, v = .float x)

theorem Members.hasUnlistedKeys_iff {ms : Members} :
    ms.HasUnlistedKeys ↔ ∃ v, ms.get? "keys" = some v ∧ v.elements? = none := by
  have helements : ∀ v : Json, v.elements? = none ↔
      v = .null ∨ (∃ b, v = .bool b) ∨ (∃ n, v = .int n) ∨ ∃ x, v = .float x := by
    intro v
    cases v <;> simp [Json.elements?]
  simp only [HasUnlistedKeys, helements]

theorem KeySet.entries_eq_error_iff {keys : KeySet} :
    (∃ d, keys.entries = .error d) ↔ keys.HasUnlistedKeys := by
  rw [Members.hasUnlistedKeys_iff, entries]
  cases keys.get? "keys" with
  | none => exact iff_of_false (fun ⟨_, h⟩ ↦ (nomatch h)) (fun ⟨_, h, _⟩ ↦ (nomatch h))
  | some v => cases hv : v.elements? <;> simp [hv]

namespace KeyEntry

theorem candidates_eq_error_iff {entry : Members} :
    (∃ d, candidates entry = .error d) ↔ entry.HasUnlistedKeys := by
  rw [Members.hasUnlistedKeys_iff, candidates]
  cases entry.get? "keys" with
  | none =>
    refine iff_of_false ?_ (fun ⟨_, h, _⟩ ↦ (nomatch h))
    rintro ⟨d, h⟩
    simp only at h
    split at h <;> cases h
  | some v => cases hv : v.elements? <;> simp [hv]

/-! ## Keys -/

/-- A key that was tried and does not accept. -/
def Refuses (a : SigningAlgorithm) (message signature : Bytes) (v : Json) : Prop :=
  ∃ key, VerificationKey.ofJson a v = .ok key ∧ key.accepts a message signature = false

/-- The search among values comes to one that is meant to be a key and whose numbers cannot be
read: the values before it are keys that do not accept. -/
def ComesToUnreadable (a : SigningAlgorithm) (message signature : Bytes) (values : List Json) :
    Prop :=
  ∃ before v after, values = before ++ v :: after ∧
    FailsWith KeyFault.IsDefect (VerificationKey.ofJson a v) ∧
    ∀ u ∈ before, Refuses a message signature u

/-- A search goes on behind a key that does not accept, and nowhere else. -/
theorem comesToUnreadable_cons_iff {a : SigningAlgorithm} {message signature : Bytes} {v : Json}
    {values : List Json} :
    ComesToUnreadable a message signature (v :: values) ↔
      FailsWith KeyFault.IsDefect (VerificationKey.ofJson a v) ∨
        Refuses a message signature v ∧ ComesToUnreadable a message signature values := by
  constructor
  · rintro ⟨before, u, after, hvalues, hu, hbefore⟩
    cases before with
    | nil =>
      cases hvalues
      exact .inl hu
    | cons first before =>
      cases hvalues
      rw [List.forall_mem_cons] at hbefore
      exact .inr ⟨hbefore.1, before, u, after, rfl, hu, hbefore.2⟩
  · rintro (hv | ⟨hv, before, u, after, rfl, hu, hbefore⟩)
    · exact ⟨[], v, values, rfl, hv, fun _ hu ↦ (nomatch hu)⟩
    · refine ⟨v :: before, u, after, rfl, hu, ?_⟩
      rw [List.forall_mem_cons]
      exact ⟨hv, hbefore⟩

theorem anyAccepts_failsWith_iff {a : SigningAlgorithm} {message signature : Bytes}
    {values : List Json} :
    FailsWith KeyFault.IsDefect (anyAccepts (some a) message signature values) ↔
      ComesToUnreadable a message signature values := by
  induction values with
  | nil =>
    refine iff_of_false (not_failsWith_ok false) ?_
    rintro ⟨before, v, after, hvalues, -⟩
    exact absurd hvalues (by simp)
  | cons v values ih =>
    rw [comesToUnreadable_cons_iff, ← ih, anyAccepts, Refuses]
    cases VerificationKey.ofJson a v with
    | error fault => simp
    | ok key =>
      -- a key that accepts ends the search, and one that does not leaves it to the rest
      cases haccepts : key.accepts a message signature <;> simp [haccepts, not_failsWith_ok]

/-- Where the algorithm is admitted but not known, no value is looked into. -/
theorem not_anyAccepts_none_failsWith (message signature : Bytes) (values : List Json) :
    ¬FailsWith KeyFault.IsDefect (anyAccepts none message signature values) := by
  cases values with
  | nil => exact not_failsWith_ok false
  | cons v values =>
    rintro ⟨fault, h, d, rfl⟩
    cases h

end KeyEntry

/-! ## Times -/

/-- The claims have a time that is none: null, a list, an object or an infinite number. -/
def Members.HasUntimely (claims : Members) (name : Text) : Prop :=
  ∃ v, claims.get? name = some v ∧
    (v = .null ∨ (∃ vs, v = .arr vs) ∨ (∃ ms, v = .obj ms) ∨ ∃ s, v = .float (.infinite s))

/-- A text may be no integer, but then it is a text that is none. -/
theorem Text.readInteger_eq_error {s : String} {fault : IntegerFault}
    (h : readInteger s = .error fault) : fault ≠ .wrongType ∧ fault ≠ .infinite := by
  simp only [readInteger] at h
  split at h
  · cases h
    exact ⟨fun h ↦ (nomatch h), fun h ↦ (nomatch h)⟩
  · split at h
    · cases h
      exact ⟨fun h ↦ (nomatch h), fun h ↦ (nomatch h)⟩
    · cases h
      exact ⟨fun h ↦ (nomatch h), fun h ↦ (nomatch h)⟩
    · split at h
      · cases h
        exact ⟨fun h ↦ (nomatch h), fun h ↦ (nomatch h)⟩
      · split at h
        · cases h
        · cases h
          exact ⟨fun h ↦ (nomatch h), fun h ↦ (nomatch h)⟩

theorem Json.toInteger_str_eq_error {s : Text} {fault : IntegerFault}
    (h : (str s).toInteger = .error fault) : fault ≠ .wrongType ∧ fault ≠ .infinite := by
  cases s with
  | plain s => exact Text.readInteger_eq_error h
  | loose t =>
    cases h
    exact ⟨fun h ↦ (nomatch h), fun h ↦ (nomatch h)⟩

theorem Json.toInteger_eq_error_iff {v : Json} :
    (v.toInteger = .error .wrongType ∨ v.toInteger = .error .infinite) ↔
      v = .null ∨ (∃ vs, v = .arr vs) ∨ (∃ ms, v = .obj ms) ∨ ∃ s, v = .float (.infinite s) := by
  cases v with
  | str s =>
    refine iff_of_false ?_ (by simp)
    rintro (h | h)
    · exact (toInteger_str_eq_error h).1 rfl
    · exact (toInteger_str_eq_error h).2 rfl
  | float x => cases x <;> simp [toInteger]
  | _ => simp [toInteger]

namespace Expectations

theorem time?_failsWith_iff {claims : Members} {name : Text} {form : ClaimFault}
    (hform : ¬form.IsDefect) :
    FailsWith ClaimFault.IsDefect (time? claims name form) ↔ claims.HasUntimely name := by
  simp only [Members.HasUntimely, ← Json.toInteger_eq_error_iff]
  rw [time?]
  cases claims.get? name with
  | none => simp [not_failsWith_ok]
  | some v =>
    simp only [Option.some.injEq, exists_eq_left']
    cases v.toInteger with
    | ok n => simp [not_failsWith_ok]
    | error fault => cases fault <;> simp [hform] <;> exact ⟨_, rfl⟩

theorem checkTime_failsWith_iff {claims : Members} {name : Text} {form fault : ClaimFault}
    {isOut : Int → Bool} (hform : ¬form.IsDefect) (hfault : ¬fault.IsDefect) :
    FailsWith ClaimFault.IsDefect (checkTime claims name form fault isOut) ↔
      claims.HasUntimely name := by
  rw [← time?_failsWith_iff hform, checkTime]
  rcases time? claims name form with found | _ | time
  · simp
  · simp [not_failsWith_ok]
  · cases hout : isOut time <;> simp [hout, not_failsWith_ok, hfault]

/-- A time that is none is met: the first of the three that does not pass is one. -/
def MeetsUntimely (e : Expectations) (now : Int) (claims : Members) : Prop :=
  claims.HasUntimely "iat" ∨ checkIssuedAt claims = .ok () ∧
    (claims.HasUntimely "nbf" ∨ e.checkNotBefore now claims = .ok () ∧ claims.HasUntimely "exp")

section Checks

variable {e : Expectations} {now : Int} {claims : Members}

theorem checkIssuedAt_failsWith_iff :
    FailsWith ClaimFault.IsDefect (checkIssuedAt claims) ↔ claims.HasUntimely "iat" := by
  rw [← @time?_failsWith_iff claims "iat" .issuedAtForm (fun ⟨_, h⟩ ↦ (nomatch h)), checkIssuedAt]
  cases time? claims "iat" .issuedAtForm with
  | error fault => simp [Except.map]
  | ok time => exact iff_of_false (not_failsWith_ok _) (not_failsWith_ok _)

theorem checkNotBefore_failsWith_iff :
    FailsWith ClaimFault.IsDefect (e.checkNotBefore now claims) ↔ claims.HasUntimely "nbf" :=
  checkTime_failsWith_iff (fun ⟨_, h⟩ ↦ (nomatch h)) (fun ⟨_, h⟩ ↦ (nomatch h))

theorem checkExpiry_failsWith_iff :
    FailsWith ClaimFault.IsDefect (e.checkExpiry now claims) ↔ claims.HasUntimely "exp" :=
  checkTime_failsWith_iff (fun ⟨_, h⟩ ↦ (nomatch h)) (fun ⟨_, h⟩ ↦ (nomatch h))

/-- Whatever an audience is, there is an answer to it. -/
theorem not_checkAudience_failsWith :
    ¬FailsWith ClaimFault.IsDefect (e.checkAudience claims) := by
  rintro ⟨fault, h, d, rfl⟩
  rw [checkAudience] at h
  split at h
  · split at h
    · cases h
    · split at h <;> cases h
  · cases h

theorem not_checkIssuer_failsWith : ¬FailsWith ClaimFault.IsDefect (e.checkIssuer claims) := by
  rintro ⟨fault, h, d, rfl⟩
  rw [checkIssuer] at h
  split at h
  · cases h
  · split at h <;> cases h

theorem not_checkText_failsWith {name : Text} {form : ClaimFault} (hform : ¬form.IsDefect) :
    ¬FailsWith ClaimFault.IsDefect (checkText claims name form) := by
  rintro ⟨fault, h, hfault⟩
  rw [checkText] at h
  split at h
  · cases h
  · cases h
  · cases h
    exact hform hfault

/-- **Only times break a check of claims down.** -/
theorem check_failsWith_iff :
    FailsWith ClaimFault.IsDefect (e.check now claims) ↔ e.MeetsUntimely now claims := by
  have hsubject := @not_checkText_failsWith claims "sub" .subjectForm (fun ⟨_, h⟩ ↦ (nomatch h))
  have htokenId := @not_checkText_failsWith claims "jti" .tokenIdForm (fun ⟨_, h⟩ ↦ (nomatch h))
  simp only [check, MeetsUntimely, failsWith_unit_bind_iff, checkIssuedAt_failsWith_iff,
    checkNotBefore_failsWith_iff, checkExpiry_failsWith_iff, not_checkAudience_failsWith,
    not_checkIssuer_failsWith, hsubject, htokenId, and_false, or_false]

end Checks

end Expectations

/-! ## Tokens -/

namespace Verifier

section Steps

variable {v : Verifier} {token : SignedToken}

/-- Whatever a source gives or fails with, there is an answer to it. -/
theorem not_loadKeys_failsWith : ¬FailsWith IsDefect v.loadKeys := by
  rintro ⟨fault, h, d, hd⟩
  rw [loadKeys] at h
  split at h <;> cases h <;> cases hd

theorem selectKey_failsWith_iff {keys : KeySet} {kid : Json} :
    FailsWith IsDefect (selectKey keys kid) ↔ keys.HasUnlistedKeys := by
  rw [← KeySet.entries_eq_error_iff, selectKey]
  cases keys.entries with
  | error defect => simp
  | ok entries =>
    refine iff_of_false ?_ (fun ⟨_, h⟩ ↦ (nomatch h))
    rintro ⟨fault, h, d, hd⟩
    simp only at h
    split at h <;> split at h <;> cases h <;> cases hd

theorem not_admitted_failsWith {header : Members} :
    ¬FailsWith IsDefect (v.admitted header) := by
  rintro ⟨fault, h, d, hd⟩
  rw [admitted] at h
  split at h
  · cases h; cases hd
  · split at h
    · split at h
      · cases h
      · cases h; cases hd
    · cases h; cases hd

/-- A check of a signature breaks down on the values an entry stands for: there are none to run
through, or one is met that cannot be read. -/
theorem checkSignature_failsWith_iff {entry : Members} :
    FailsWith IsDefect (v.checkSignature token entry) ↔
      ∃ algorithm, v.admitted token.header = .ok algorithm ∧
        (entry.HasUnlistedKeys ∨
          ∃ a values, algorithm = some a ∧ KeyEntry.candidates entry = .ok values ∧
            KeyEntry.ComesToUnreadable a token.signed token.signature values) := by
  simp only [checkSignature, failsWith_bind_iff, not_admitted_failsWith, false_or]
  refine exists_congr fun algorithm ↦ and_congr_right fun _ ↦ ?_
  rw [← KeyEntry.candidates_eq_error_iff]
  cases KeyEntry.candidates entry with
  | error defect => simp
  | ok values =>
    have hsearch : FailsWith KeyFault.IsDefect
        (KeyEntry.anyAccepts algorithm token.signed token.signature values) ↔
          ∃ a values', algorithm = some a ∧ (.ok values : Except Defect _) = .ok values' ∧
            KeyEntry.ComesToUnreadable a token.signed token.signature values' := by
      cases algorithm with
      | none => simp [KeyEntry.not_anyAccepts_none_failsWith]
      | some a => simp [KeyEntry.anyAccepts_failsWith_iff]
    simp only [reduceCtorEq, exists_false, false_or, ← hsearch]
    rcases KeyEntry.anyAccepts algorithm token.signed token.signature values with fault | _ | _
    · simp
    · refine iff_of_false ?_ (not_failsWith_ok false)
      rintro ⟨fault, h, d, hd⟩
      cases h
      cases hd
    · exact iff_of_false (not_failsWith_ok ()) (not_failsWith_ok true)

theorem readClaims_failsWith_iff :
    FailsWith IsDefect (readClaims token) ↔ Json.ofUtf8 token.payload = .error .tooDeep := by
  rw [readClaims]
  rcases Json.ofUtf8 token.payload with fault | payload
  · cases fault with
    | tooDeep => simp
    | _ =>
      refine iff_of_false ?_ (by simp)
      rintro ⟨fault, h, d, hd⟩
      cases h
      cases hd
  · refine iff_of_false ?_ (by simp)
    rintro ⟨fault, h, d, hd⟩
    cases payload <;> cases h <;> cases hd

end Steps

/-- The token can be taken apart, the source gives a document with an entry for it, and the
signature is one under that entry. -/
def Verifies (v : Verifier) (raw : Json) (token : SignedToken) : Prop :=
  SignedToken.ofJson? raw = some token ∧
    ∃ keys entry, v.keys = .document (.obj keys) ∧
      selectKey keys (token.header.get "kid") = .ok entry ∧ v.checkSignature token entry = .ok ()

/-- The ways in which the verification of a token breaks down. -/
inductive BreaksDown (v : Verifier) (now : Int) (raw : Json) : Prop where
  /-- The document has keys that are no list. -/
  | document {token : SignedToken} {keys : KeySet}
    (htoken : SignedToken.ofJson? raw = some token) (hkeys : v.keys = .document (.obj keys))
    (hunlisted : keys.HasUnlistedKeys)
  /-- The entry for the token has keys that are no list. -/
  | entry {token : SignedToken} {keys : KeySet} {entry : Members}
    {algorithm : Option SigningAlgorithm}
    (htoken : SignedToken.ofJson? raw = some token) (hkeys : v.keys = .document (.obj keys))
    (hentry : selectKey keys (token.header.get "kid") = .ok entry)
    (hadmitted : v.admitted token.header = .ok algorithm) (hunlisted : entry.HasUnlistedKeys)
  /-- The entry for the token stands for a key whose numbers cannot be read. -/
  | key {token : SignedToken} {keys : KeySet} {entry : Members} {algorithm : SigningAlgorithm}
    {values : List Json}
    (htoken : SignedToken.ofJson? raw = some token) (hkeys : v.keys = .document (.obj keys))
    (hentry : selectKey keys (token.header.get "kid") = .ok entry)
    (hadmitted : v.admitted token.header = .ok (some algorithm))
    (hvalues : KeyEntry.candidates entry = .ok values)
    (hunreadable :
      KeyEntry.ComesToUnreadable algorithm token.signed token.signature values)
  /-- The token is signed, and its payload is nested too deeply to be read. -/
  | depth {token : SignedToken} (hverifies : v.Verifies raw token)
    (hdepth : Json.ofUtf8 token.payload = .error .tooDeep)
  /-- The token is signed, and a time in its claims is none. -/
  | time {claims : Members} (hsigned : v.signedClaims raw = .ok claims)
    (huntimely : v.expectations.MeetsUntimely now claims)

theorem signedClaims_failsWith_iff {v : Verifier} {raw : Json} {token : SignedToken}
    (htoken : SignedToken.ofJson? raw = some token) :
    FailsWith IsDefect (v.signedClaims raw) ↔
      ∃ keys : KeySet, v.keys = .document (.obj keys) ∧
        (keys.HasUnlistedKeys ∨
          ∃ entry, selectKey keys (token.header.get "kid") = .ok entry ∧
            (FailsWith IsDefect (v.checkSignature token entry) ∨
              v.checkSignature token entry = .ok () ∧
                Json.ofUtf8 token.payload = .error .tooDeep)) := by
  rw [signedClaims_of_token htoken, claimsOf, failsWith_bind_iff,
    or_iff_right not_loadKeys_failsWith]
  refine exists_congr fun keys ↦ and_congr loadKeys_eq_ok_iff ?_
  rw [failsWith_bind_iff, selectKey_failsWith_iff]
  refine or_congr_right (exists_congr fun entry ↦ and_congr_right fun _ ↦ ?_)
  rw [failsWith_unit_bind_iff, readClaims_failsWith_iff]

theorem not_signedClaims_failsWith {v : Verifier} {raw : Json}
    (htoken : SignedToken.ofJson? raw = none) : ¬FailsWith IsDefect (v.signedClaims raw) := by
  rintro ⟨fault, h, d, hd⟩
  rw [signedClaims, htoken] at h
  cases hset : raw.isSet <;> rw [hset] at h <;> cases h <;> cases hd

theorem check_failsWith_iff_claims {v : Verifier} {now : Int} {raw : Json} :
    FailsWith IsDefect (v.check now raw) ↔
      FailsWith IsDefect (v.signedClaims raw) ∨
        ∃ claims, v.signedClaims raw = .ok claims ∧ v.expectations.MeetsUntimely now claims := by
  rw [check, failsWith_bind_iff]
  refine or_congr_right (exists_congr fun claims ↦ and_congr_right fun _ ↦ ?_)
  rw [← Expectations.check_failsWith_iff]
  cases v.expectations.check now claims with
  | error fault => simp
  | ok _ => exact iff_of_false (not_failsWith_ok _) (not_failsWith_ok _)

/-- **How a verification breaks down.** -/
theorem check_failsWith_iff {v : Verifier} {now : Int} {raw : Json} :
    FailsWith IsDefect (v.check now raw) ↔ v.BreaksDown now raw := by
  rw [check_failsWith_iff_claims]
  constructor
  · rintro (hfails | ⟨claims, hsigned, huntimely⟩)
    · cases htoken : SignedToken.ofJson? raw with
      | none => exact absurd hfails (not_signedClaims_failsWith htoken)
      | some token =>
        obtain ⟨keys, hkeys, hunlisted | ⟨entry, hentry, hfails | ⟨hsignature, hdepth⟩⟩⟩ :=
          (signedClaims_failsWith_iff htoken).mp hfails
        · exact .document htoken hkeys hunlisted
        · obtain ⟨algorithm, hadmitted, hunlisted | ⟨a, values, rfl, hvalues, hunreadable⟩⟩ :=
            checkSignature_failsWith_iff.mp hfails
          · exact .entry htoken hkeys hentry hadmitted hunlisted
          · exact .key htoken hkeys hentry hadmitted hvalues hunreadable
        · exact .depth ⟨htoken, keys, entry, hkeys, hentry, hsignature⟩ hdepth
    · exact .time hsigned huntimely
  · intro h
    cases h with
    | document htoken hkeys hunlisted =>
      exact .inl ((signedClaims_failsWith_iff htoken).mpr ⟨_, hkeys, .inl hunlisted⟩)
    | entry htoken hkeys hentry hadmitted hunlisted =>
      have hfails := checkSignature_failsWith_iff.mpr ⟨_, hadmitted, .inl hunlisted⟩
      exact .inl ((signedClaims_failsWith_iff htoken).mpr
        ⟨_, hkeys, .inr ⟨_, hentry, .inl hfails⟩⟩)
    | key htoken hkeys hentry hadmitted hvalues hunreadable =>
      have hfails := checkSignature_failsWith_iff.mpr
        ⟨_, hadmitted, .inr ⟨_, _, rfl, hvalues, hunreadable⟩⟩
      exact .inl ((signedClaims_failsWith_iff htoken).mpr
        ⟨_, hkeys, .inr ⟨_, hentry, .inl hfails⟩⟩)
    | depth hverifies hdepth =>
      obtain ⟨htoken, keys, entry, hkeys, hentry, hsignature⟩ := hverifies
      exact .inl ((signedClaims_failsWith_iff htoken).mpr
        ⟨keys, hkeys, .inr ⟨entry, hentry, .inr ⟨hsignature, hdepth⟩⟩⟩)
    | time hsigned huntimely => exact .inr ⟨_, hsigned, huntimely⟩

end Verifier

/-! ## Sessions -/

namespace Provider

end Provider

/-! ## A token without an answer -/

namespace Provider

end Provider

end SessionGate
