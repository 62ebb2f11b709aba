import SessionGate.Proofs.KeyBinding

/-!
# Which secrets a token may be signed with

Where keyed digests are admitted, a token is as good as the secret that it is signed with is
secret. A key for them is an entry of type `oct`, and its secret is what its member `k` encodes:
`SignedToken.IsSealedWith`. `Verifier.check_sealed` says which tokens are accepted, and that they
are sealed with the selected entry exactly if it names its type, unless it is a set of keys.

## Entries that are no keys

An entry without a type is not refused. It is taken for a table of keys, and so every text in it is
tried as a secret: its identifier, its algorithm, whatever it has. All of that is published, and the
identifier even stands in the header of each token, so that everybody can sign for such an entry:
`SignedToken.isVouchedBy_of_text`.
-/

namespace SessionGate

open Text

/-! ## Secrets -/

/-- A value stands for a secret: a key that encodes it, or a text that is used as it is. -/
inductive Json.IsSecret : Json → Bytes → Prop
  | key {entry : Members} {k : String} {secret : Bytes}
      (hkind : entry.get? "kty" = some (.str "oct")) (hk : entry.get? "k" = some (.str k))
      (hsecret : Base64.decodeSegment? (utf8 k) = some secret) : IsSecret (.obj entry) secret
  | text {s : String} (h : KeyText.holdsPairKey s.toList = false) : IsSecret (.str s) (utf8 s)

/-- The token carries the keyed digest under the secret that a key of type `oct` encodes. -/
def SignedToken.IsSealedWith (token : SignedToken) (hash : Hash) (entry : Members) : Prop :=
  entry.get? "kty" = some (.str "oct") ∧
    ∃ (k : String) (secret : Bytes), entry.get? "k" = some (.str k) ∧
      Base64.decodeSegment? (utf8 k) = some secret ∧
      hash.hmac secret token.signed = token.signature

namespace VerificationKey

theorem secretOfMembers_eq_ok_iff {entry : Members} {secret : Bytes} :
    secretOfMembers entry = .ok secret ↔ (Json.obj entry).IsSecret secret := by
  constructor
  · intro h
    rw [secretOfMembers] at h
    by_cases hkind : (entry.get "kty").same (.str "oct") = true
    · simp only [if_pos hkind] at h
      cases hk : entry.get "k" with
      | str k =>
        rw [hk] at h
        cases k with
        | loose t => cases h
        | plain k =>
          simp only at h
          cases hsecret : Base64.decodeSegment? (utf8 k) with
          | none => rw [hsecret] at h; cases h
          | some bytes =>
            rw [hsecret] at h
            cases h
            exact .key (Members.get?_of_get_str ((Json.same_str_iff _ _).mp hkind))
              (Members.get?_of_get_str hk) hsecret
      | _ => rw [hk] at h; cases h
    · simp only [if_neg hkind] at h
      cases h
  · intro h
    cases h with
    | @key _ k _ hkind hk hsecret =>
      have hkind' : (entry.get "kty").same (.str "oct") = true := by
        rw [Json.same_str_iff, Members.get, hkind]
        rfl
      have hk' : entry.get "k" = .str k := by
        rw [Members.get, hk]
        rfl
      rw [secretOfMembers, hk']
      simp only [if_pos hkind', hsecret]

/-- The keys for a keyed digest are secrets. -/
theorem ofJson_hmac_eq_ok_iff {hash : Hash} {v : Json} {key : VerificationKey} :
    ofJson (.hmac hash) v = .ok key ↔ ∃ bytes, v.IsSecret bytes ∧ key = secret bytes := by
  cases v with
  | obj entry =>
    rw [ofJson]
    cases hsecret : secretOfMembers entry with
    | error fault =>
      constructor
      · intro h
        cases h
      · rintro ⟨bytes, hbytes, -⟩
        rw [secretOfMembers_eq_ok_iff.mpr hbytes] at hsecret
        cases hsecret
    | ok bytes =>
      constructor
      · rintro ⟨⟩
        exact ⟨bytes, secretOfMembers_eq_ok_iff.mp hsecret, rfl⟩
      · rintro ⟨other, hother, rfl⟩
        rw [secretOfMembers_eq_ok_iff.mpr hother] at hsecret
        cases hsecret
        rfl
  | str s =>
    cases s with
    | loose t =>
      constructor
      · intro h
        cases h
      · rintro ⟨bytes, hbytes, -⟩
        cases hbytes
    | plain s =>
      rw [ofJson, ofText, secretOfText]
      · constructor
        · intro h
          split at h
          · cases h
          · next hno =>
            cases h
            exact ⟨utf8 s, .text (Bool.eq_false_iff.mpr hno), rfl⟩
        · rintro ⟨bytes, hbytes, rfl⟩
          cases hbytes with
          | text hno =>
            rw [if_neg (Bool.eq_false_iff.mp hno)]
            rfl
      · intro name size h
        cases h
  | _ =>
    constructor
    · intro h
      cases h
    · rintro ⟨bytes, hbytes, -⟩
      cases hbytes

end VerificationKey

namespace KeyEntry

/-- Among the values there is a secret that the message is signed with, and those before it are
secrets as well. -/
def FindsSecret (hash : Hash) (message signature : Bytes) (values : List Json) : Prop :=
  ∃ before v after secret, values = before ++ v :: after ∧
    (∀ u ∈ before, ∃ other, u.IsSecret other) ∧ v.IsSecret secret ∧
    hash.hmac secret message = signature

variable {hash : Hash} {message signature : Bytes}

theorem not_findsSecret_nil : ¬FindsSecret hash message signature [] := by
  rintro ⟨before, v, after, secret, hvalues, -⟩
  exact absurd hvalues (by simp)

/-- The search goes on behind a secret. -/
theorem findsSecret_cons_iff {v : Json} {values : List Json} :
    FindsSecret hash message signature (v :: values) ↔
      ∃ secret, v.IsSecret secret ∧
        (hash.hmac secret message = signature ∨ FindsSecret hash message signature values) := by
  constructor
  · rintro ⟨before, u, after, secret, hvalues, hbefore, hu, hsigned⟩
    cases before with
    | nil =>
      cases hvalues
      exact ⟨secret, hu, .inl hsigned⟩
    | cons first before =>
      cases hvalues
      obtain ⟨⟨other, hother⟩, hbefore⟩ := List.forall_mem_cons.mp hbefore
      exact ⟨other, hother, .inr ⟨before, u, after, secret, rfl, hbefore, hu, hsigned⟩⟩
  · rintro ⟨other, hother, hsigned | ⟨before, u, after, secret, rfl, hbefore, hu, hsigned⟩⟩
    · exact ⟨[], v, values, other, rfl, fun _ h ↦ (nomatch h), hother, hsigned⟩
    · exact ⟨v :: before, u, after, secret, rfl,
        List.forall_mem_cons.mpr ⟨⟨other, hother⟩, hbefore⟩, hu, hsigned⟩

theorem anyAccepts_hmac_iff {values : List Json} :
    anyAccepts (some (.hmac hash)) message signature values = .ok true ↔
      FindsSecret hash message signature values := by
  induction values with
  | nil =>
    refine iff_of_false ?_ not_findsSecret_nil
    intro h
    cases h
  | cons v values ih =>
    rw [findsSecret_cons_iff, anyAccepts]
    cases hkey : VerificationKey.ofJson (.hmac hash) v with
    | error fault =>
      constructor
      · intro h
        cases h
      · rintro ⟨secret, hsecret, -⟩
        rw [VerificationKey.ofJson_hmac_eq_ok_iff.mpr ⟨secret, hsecret, rfl⟩] at hkey
        cases hkey
    | ok key =>
      obtain ⟨secret, hsecret, rfl⟩ := VerificationKey.ofJson_hmac_eq_ok_iff.mp hkey
      by_cases hsigned : hash.hmac secret message = signature
      · simp only [VerificationKey.accepts, hsigned, decide_true, if_true]
        exact iff_of_true trivial ⟨secret, hsecret, .inl hsigned⟩
      · simp only [VerificationKey.accepts, hsigned, decide_false, Bool.false_eq_true, if_false, ih]
        constructor
        · exact fun h ↦ ⟨secret, hsecret, .inr h⟩
        · rintro ⟨other, hother, hsigned' | h⟩
          · -- a value stands for one secret only
            rw [VerificationKey.ofJson_hmac_eq_ok_iff.mpr ⟨other, hother, rfl⟩] at hkey
            cases hkey
            exact absurd hsigned' hsigned
          · exact h

/-- An entry that is a key itself is the only value it stands for. -/
theorem findsSecret_key_iff {entry : Members} :
    FindsSecret hash message signature [.obj entry] ↔
      ∃ secret, (Json.obj entry).IsSecret secret ∧ hash.hmac secret message = signature := by
  simp only [findsSecret_cons_iff, not_findsSecret_nil, or_false]

theorem candidates_of_untyped {entry : Members} (hkind : entry.has "kty" = false)
    (hkeys : entry.has "keys" = false) (hne : entry ≠ []) :
    candidates entry = .ok (entry.map Prod.snd) := by
  rw [candidates, (Members.has_eq_false_iff _ _).mp hkeys, hkind]
  cases entry with
  | nil => exact absurd rfl hne
  | cons m rest => rfl

end KeyEntry

/-! ## Acceptance -/

def SigningAlgorithm.hmacNames : List Text := ["HS256", "HS384", "HS512"]

theorem SigningAlgorithm.ofName?_of_mem_hmacNames {name : Text} (h : name ∈ hmacNames) :
    ∃ hash, name.string?.bind ofName? = some (.hmac hash) ∧ name ≠ "" := by
  rw [hmacNames, List.mem_cons, List.mem_cons, List.mem_singleton] at h
  rcases h with rfl | rfl | rfl
  · exact ⟨.sha256, rfl, by decide⟩
  · exact ⟨.sha384, rfl, by decide⟩
  · exact ⟨.sha512, rfl, by decide⟩

/-- One of the values that an entry stands for is the secret that the token is signed with. -/
def SignedToken.IsVouchedBy (token : SignedToken) (hash : Hash) (entry : Members) : Prop :=
  ∃ values, KeyEntry.candidates entry = .ok values ∧
    KeyEntry.FindsSecret hash token.signed token.signature values

namespace SignedToken

variable {token : SignedToken} {hash : Hash} {entry : Members}

/-- What a text is taken apart to can be computed from its letters. -/
theorem exists_of_letters {s : String} {cs : List Char} {p : SignedToken → Prop} [DecidablePred p]
    (hs : s = String.ofList cs) (h : (ofBytes? (encodeUtf8 cs)).any (fun t ↦ p t) = true) :
    ∃ token, ofBytes? (utf8 s) = some token ∧ p token := by
  rw [utf8_eq_encodeUtf8 hs]
  cases htoken : ofBytes? (encodeUtf8 cs) with
  | none => rw [htoken] at h; cases h
  | some token =>
    rw [htoken] at h
    exact ⟨token, rfl, of_decide_eq_true h⟩

theorem has_of_isSealedWith (h : token.IsSealedWith hash entry) : entry.has "kty" = true := by
  obtain ⟨hkind, -⟩ := h
  exact (Members.has_eq_true_iff _ _).mpr ⟨_, hkind⟩

/-- A key vouches for what is sealed with it. -/
theorem isVouchedBy_iff_isSealedWith (hkind : entry.has "kty" = true)
    (hkeys : entry.has "keys" = false) :
    token.IsVouchedBy hash entry ↔ token.IsSealedWith hash entry := by
  rw [IsVouchedBy, KeyEntry.candidates_of_ordinary hkind hkeys]
  constructor
  · rintro ⟨_, ⟨⟩, hfinds⟩
    obtain ⟨secret, hsecret, hsigned⟩ := KeyEntry.findsSecret_key_iff.mp hfinds
    cases hsecret with
    | @key _ k _ hoct hk hsecret => exact ⟨hoct, k, secret, hk, hsecret, hsigned⟩
  · rintro ⟨hoct, k, secret, hk, hsecret, hsigned⟩
    exact ⟨_, rfl, KeyEntry.findsSecret_key_iff.mpr ⟨secret, .key hoct hk hsecret, hsigned⟩⟩

/-- A text that comes first in an entry without a type vouches for what is signed with it. -/
theorem isVouchedBy_of_text {n : Text} {s : String} {rest : Members}
    (hentry : entry = (n, .str s) :: rest) (hkind : entry.has "kty" = false)
    (hkeys : entry.has "keys" = false) (hs : KeyText.holdsPairKey s.toList = false)
    (hsigned : hash.hmac (utf8 s) token.signed = token.signature) :
    token.IsVouchedBy hash entry := by
  have hne : entry ≠ [] := hentry ▸ List.cons_ne_nil _ _
  refine ⟨entry.map Prod.snd, KeyEntry.candidates_of_untyped hkind hkeys hne, ?_⟩
  rw [hentry, List.map_cons, KeyEntry.findsSecret_cons_iff]
  exact ⟨utf8 s, .text hs, .inl hsigned⟩

end SignedToken

namespace Verifier

variable {v : Verifier} {token : SignedToken} {name : Text} {hash : Hash}

/-- A signature with a keyed digest is checked with the secrets that the entry stands for. -/
theorem checkSignature_hmac_eq_ok_iff
    (hname : name.string?.bind SigningAlgorithm.ofName? = some (.hmac hash))
    (hne : name ≠ "") (halg : token.header.get? "alg" = some (.str name)) (entry : Members) :
    v.checkSignature token entry = .ok () ↔
      name ∈ v.algorithms ∧ token.IsVouchedBy hash entry := by
  rw [checkSignature_eq_ok_iff]
  constructor
  · rintro ⟨algorithm, values, hadmitted, hvalues, haccepts⟩
    obtain ⟨name', halg', -, hmem, rfl⟩ := admitted_eq_ok_iff.mp hadmitted
    rw [halg] at halg'
    cases halg'
    rw [hname] at haccepts
    exact ⟨hmem, values, hvalues, KeyEntry.anyAccepts_hmac_iff.mp haccepts⟩
  · rintro ⟨hmem, values, hvalues, hfinds⟩
    exact ⟨_, values, admitted_eq_ok_iff.mpr ⟨name, halg, hne, hmem, rfl⟩, hvalues,
      hname ▸ KeyEntry.anyAccepts_hmac_iff.mpr hfinds⟩

/-- What is accepted of the tokens that name a keyed digest. -/
theorem check_hmac_eq_ok_iff {now : Int} {raw : Json} {claims : Members}
    (htoken : SignedToken.ofJson? raw = some token)
    (hname : name.string?.bind SigningAlgorithm.ofName? = some (.hmac hash)) (hne : name ≠ "")
    (halg : token.header.get? "alg" = some (.str name)) :
    v.check now raw = .ok claims ↔
      ∃ keys items entry, v.keys = .document (.obj keys) ∧
        Members.get? keys "keys" = some (.arr items) ∧
        KeySet.Selects items (token.header.get "kid") entry ∧
        name ∈ v.algorithms ∧ token.IsVouchedBy hash entry ∧
        Json.ofUtf8 token.payload = .ok (.obj claims) ∧
        v.expectations.check now claims = .ok () := by
  rw [check_eq_ok_iff, signedClaims_eq_ok_iff]
  constructor
  · rintro ⟨⟨token', keys, entry, htoken', hkeys, hentry, hsignature, hclaims⟩, hcheck⟩
    rw [htoken] at htoken'
    cases htoken'
    obtain ⟨items, hitems, hselects⟩ := selectKey_eq_ok_iff.mp hentry
    obtain ⟨hmem, hvouched⟩ := (checkSignature_hmac_eq_ok_iff hname hne halg entry).mp hsignature
    exact ⟨keys, items, entry, hkeys, hitems, hselects, hmem, hvouched, hclaims, hcheck⟩
  · rintro ⟨keys, items, entry, hkeys, hitems, hselects, hmem, hvouched, hclaims, hcheck⟩
    exact ⟨⟨token, keys, entry, htoken, hkeys, selectKey_eq_ok_iff.mpr ⟨items, hitems, hselects⟩,
      (checkSignature_hmac_eq_ok_iff hname hne halg entry).mpr ⟨hmem, hvouched⟩, hclaims⟩, hcheck⟩

/-- **What an accepted token is sealed with.** A token that names a keyed digest is accepted exactly
if the digest is admitted, a secret of the entry that its header selects vouches for it, and its
claims are as expected. With an entry that is no set of keys, an accepted token is sealed with the
entry exactly if the entry has a type. -/
theorem check_sealed (v : Verifier) (now : Int) {raw : Json} {token : SignedToken} {name : Text}
    (htoken : SignedToken.ofJson? raw = some token) (hname : name ∈ SigningAlgorithm.hmacNames)
    (halg : token.header.get? "alg" = some (.str name)) :
    ∃ hash, name.string?.bind SigningAlgorithm.ofName? = some (.hmac hash) ∧
      (∀ claims, v.check now raw = .ok claims ↔
        ∃ keys items entry, v.keys = .document (.obj keys) ∧
          Members.get? keys "keys" = some (.arr items) ∧
          KeySet.Selects items (token.header.get "kid") entry ∧
          name ∈ v.algorithms ∧ token.IsVouchedBy hash entry ∧
          Json.ofUtf8 token.payload = .ok (.obj claims) ∧
          v.expectations.check now claims = .ok ()) ∧
      ∀ claims keys items entry, v.check now raw = .ok claims →
        v.keys = .document (.obj keys) → Members.get? keys "keys" = some (.arr items) →
        KeySet.Selects items (token.header.get "kid") entry → entry.has "keys" = false →
        (token.IsSealedWith hash entry ↔ entry.has "kty" = true) := by
  obtain ⟨hash, hhash, hne⟩ := SigningAlgorithm.ofName?_of_mem_hmacNames hname
  refine ⟨hash, hhash, fun claims ↦ check_hmac_eq_ok_iff htoken hhash hne halg, ?_⟩
  intro claims keys items entry hcheck hkeys hitems hselects hset
  refine ⟨SignedToken.has_of_isSealedWith, fun hkind ↦ ?_⟩
  obtain ⟨keys', items', entry', hkeys', hitems', hselects', -, hvouched, -⟩ :=
    (check_hmac_eq_ok_iff htoken hhash hne halg).mp hcheck
  rw [hkeys] at hkeys'
  cases hkeys'
  rw [hitems] at hitems'
  cases hitems'
  obtain rfl := hselects'.unique hselects
  exact (SignedToken.isVouchedBy_iff_isSealedWith hkind hset).mp hvouched

def secretEntry : Members :=
  [("kty", .str "oct"), ("kid", .str "k1"), ("alg", .str "HS256"),
    ("k", .str "c2VjcmV0LW9mLXRoZS1hY2Nlc3MtbGF5ZXI")]

/-- The same key without its type. -/
def untypedEntry : Members :=
  [("kid", .str "k1"), ("alg", .str "HS256"), ("k", .str "c2VjcmV0LW9mLXRoZS1hY2Nlc3MtbGF5ZXI")]

/-- A verifier that admits a keyed digest and has one entry. -/
def secretVerifier (entry : Members) : Verifier where
  keys := .document (.obj [("keys", .arr [.obj entry])])
  expectations := { issuer := some "https://idp", audience := some "access-layer" }
  algorithms := ["HS256"]

/-- Header and payload of a token for that verifier. -/
def sealedPart : String :=
  "eyJhbGciOiJIUzI1NiIsImtpZCI6ImsxIn0." ++
    "eyJpc3MiOiJodHRwczovL2lkcCIsImF1ZCI6ImFjY2Vzcy1sYXllciIsImV4cCI6MTg5MzQ1NjAwMCwiZW1haW" ++
    "wiOiJhQGIifQ."

/-- The token, signed with what the key encodes. -/
def sealedToken : String :=
  sealedPart ++ "X2w6fEKP7TU-3jIoKLDbTXWdHycmNDvqYRo72fL8caQ"

/-- The token, signed with the identifier of the key. -/
def forgedToken : String :=
  sealedPart ++ "jjzARBxJpD_U-kb8_lP3WeuqIiPOvbMAboVwJVEMluU"

def sealedClaims : Members :=
  [("iss", .str "https://idp"), ("aud", .str "access-layer"), ("exp", .int 1893456000),
    ("email", .str "a@b")]

theorem signedClaims_sealedToken :
    (secretVerifier secretEntry).signedClaims (.str sealedToken) = .ok sealedClaims :=
  signedClaims_of_letters
    (append_eq_ofList (append_eq_ofList (append_eq_ofList rfl rfl) rfl) rfl) (by decide +kernel)

/-- The token names a keyed digest and the key. -/
theorem header_sealedToken :
    ∃ token, SignedToken.ofBytes? (utf8 sealedToken) = some token ∧
      token.header.get? "alg" = some (.str "HS256") ∧ token.header.get "kid" = .str "k1" :=
  SignedToken.exists_of_letters
    (append_eq_ofList (append_eq_ofList (append_eq_ofList rfl rfl) rfl) rfl) (by decide +kernel)

/-- The token is accepted and sealed with the key. -/
theorem check_sealed_sealedToken :
    (secretVerifier secretEntry).check 1893456000 (.str sealedToken) = .ok sealedClaims ∧
      ∃ token, SignedToken.ofBytes? (utf8 sealedToken) = some token ∧
        token.IsSealedWith .sha256 secretEntry := by
  have hcheck : (secretVerifier secretEntry).check 1893456000 (.str sealedToken) =
      .ok sealedClaims := check_eq_ok_iff.mpr ⟨signedClaims_sealedToken, rfl⟩
  refine ⟨hcheck, ?_⟩
  obtain ⟨token, htoken, halg, hkid⟩ := header_sealedToken
  obtain ⟨hash, hhash, -, hsealed⟩ := check_sealed (secretVerifier secretEntry) 1893456000
    (SignedToken.ofJson?_eq_some_iff.mpr ⟨sealedToken, rfl, htoken⟩) (by decide) halg
  cases hhash
  have hselects : KeySet.Selects [.obj secretEntry] (token.header.get "kid") secretEntry := by
    rw [hkid]
    exact ⟨[], [], rfl, rfl, fun _ h ↦ (nomatch h)⟩
  exact ⟨token, htoken, (hsealed _ _ _ _ hcheck rfl rfl hselects rfl).mpr rfl⟩

/-- Without its type the entry lets in what is signed with the identifier in its header. -/
theorem check_forgedToken_unsealed :
    (secretVerifier untypedEntry).check 1893456000 (.str forgedToken) = .ok sealedClaims ∧
      ∃ token, SignedToken.ofBytes? (utf8 forgedToken) = some token ∧
        token.header.get? "alg" = some (.str "HS256") ∧ token.header.get "kid" = .str "k1" ∧
        Hash.sha256.hmac (utf8 "k1") token.signed = token.signature ∧
        ¬token.IsSealedWith .sha256 untypedEntry := by
  obtain ⟨token, htoken, halg, hkid, hsigned, hpayload⟩ :=
    @SignedToken.exists_of_letters forgedToken _ (fun token ↦
        token.header.get? "alg" = some (.str "HS256") ∧ token.header.get "kid" = .str "k1" ∧
          Hash.sha256.hmac (encodeUtf8 ['k', '1']) token.signed = token.signature ∧
          (Json.ofUtf8 token.payload).toOption = some (.obj sealedClaims)) _
      (append_eq_ofList (append_eq_ofList (append_eq_ofList rfl rfl) rfl) rfl) (by decide +kernel)
  rw [← @utf8_eq_encodeUtf8 "k1" ['k', '1'] rfl] at hsigned
  -- the first text in the entry is its identifier
  have hvouched : token.IsVouchedBy .sha256 untypedEntry :=
    SignedToken.isVouchedBy_of_text rfl rfl rfl (by decide) hsigned
  have hsignature : (secretVerifier untypedEntry).checkSignature token untypedEntry = .ok () :=
    (checkSignature_hmac_eq_ok_iff rfl (by decide) halg _).mpr ⟨List.mem_singleton_self _, hvouched⟩
  have hentry : selectKey [("keys", .arr [.obj untypedEntry])] (token.header.get "kid") =
      .ok untypedEntry := by
    rw [hkid]
    rfl
  have hclaims : (secretVerifier untypedEntry).signedClaims (.str forgedToken) =
      .ok sealedClaims :=
    signedClaims_eq_ok_iff.mpr ⟨token, _, _, SignedToken.ofJson?_eq_some_iff.mpr
      ⟨forgedToken, rfl, htoken⟩, rfl, hentry, hsignature, toOption_eq_some_iff.mp hpayload⟩
  exact ⟨check_eq_ok_iff.mpr ⟨hclaims, rfl⟩, token, htoken, halg, hkid, hsigned,
    fun h ↦ nomatch SignedToken.has_of_isSealedWith h⟩

end Verifier

end SessionGate
