import SessionGate.Proofs.Acceptance
import SessionGate.Proofs.KeySelection
import SessionGate.Proofs.Rsassa
import SessionGate.Proofs.SignedClaims

/-!
# Tokens are bound to their keys

What stands behind an accepted token where only signatures with RSA are admitted, and what does not
matter to it: `Verifier.check_keyBound`. The claims are the payload of the token, and its signature
is one under the numbers of the one entry that its header selects. The other entries of the document
have no influence on a token that names its key, whether it is accepted or not.

## Ordinary entries

An entry is handed on as it is, and is more than one key if it has a member `keys`, or no member
`kty`: then it stands for other values, and the signature is one under some of those. So the
signature is tied to the numbers of an entry only if it is a key itself.
-/

namespace SessionGate

open Text

/-! ## Signatures with RSA -/

def SigningAlgorithm.rsaNames : List Text := ["RS256", "RS384", "RS512"]

theorem SigningAlgorithm.ofName?_of_mem_rsaNames {name : Text} (h : name ∈ rsaNames) :
    ∃ hash, name.string?.bind ofName? = some (.rsa hash) := by
  rw [rsaNames, List.mem_cons, List.mem_cons, List.mem_singleton] at h
  rcases h with rfl | rfl | rfl
  · exact ⟨.sha256, rfl⟩
  · exact ⟨.sha384, rfl⟩
  · exact ⟨.sha512, rfl⟩

namespace KeyEntry

theorem candidates_of_ordinary {entry : Members} (hkind : entry.has "kty" = true)
    (hkeys : entry.has "keys" = false) : candidates entry = .ok [.obj entry] := by
  rw [candidates, (Members.has_eq_false_iff _ _).mp hkeys, hkind]
  rfl

theorem rsa_of_anyAccepts {hash : Hash} {message signature : Bytes} {entry : Members}
    (h : anyAccepts (some (.rsa hash)) message signature [.obj entry] = .ok true) :
    ∃ key, VerificationKey.rsaOfMembers entry = .ok key ∧
      Rsa.verify key hash message signature = true := by
  simp only [anyAccepts, VerificationKey.ofJson] at h
  cases hkey : VerificationKey.rsaOfMembers entry with
  | error fault => rw [hkey] at h; cases h
  | ok key =>
    rw [hkey] at h
    simp only [Except.map] at h
    by_cases hverify : (VerificationKey.rsa key).accepts (.rsa hash) message signature = true
    · exact ⟨key, rfl, hverify⟩
    · rw [if_neg hverify] at h
      cases h

end KeyEntry

/-- The token carries a signature under the numbers of a key entry, with the digest of the named
algorithm. -/
def SignedToken.IsSignedWith (token : SignedToken) (name : Text) (entry : Members) : Prop :=
  ∃ hash key, name.string?.bind SigningAlgorithm.ofName? = some (.rsa hash) ∧
    entry.HoldsNumber "n" key.modulus ∧ entry.HoldsNumber "e" key.exponent ∧
    Rsa.Signs key hash token.signed token.signature

namespace Verifier

def withKeys (v : Verifier) (document : Json) : Verifier :=
  { v with keys := .document document }

/-- A checked signature is one under the numbers of the entry, if the entry is a key itself. -/
theorem isSignedWith_of_checkSignature {v : Verifier} {token : SignedToken} {entry : Members}
    (hnames : ∀ name ∈ v.algorithms, name ∈ SigningAlgorithm.rsaNames)
    (h : v.checkSignature token entry = .ok ()) :
    ∃ name ∈ v.algorithms, token.header.get? "alg" = some (.str name) ∧
      (entry.has "kty" = true → entry.has "keys" = false → token.IsSignedWith name entry) := by
  obtain ⟨algorithm, values, hadmitted, hvalues, haccepts⟩ := checkSignature_eq_ok_iff.mp h
  obtain ⟨name, halg, -, hmem, rfl⟩ := admitted_eq_ok_iff.mp hadmitted
  refine ⟨name, hmem, halg, fun hkind hkeys ↦ ?_⟩
  obtain ⟨hash, hname⟩ := SigningAlgorithm.ofName?_of_mem_rsaNames (hnames name hmem)
  rw [KeyEntry.candidates_of_ordinary hkind hkeys] at hvalues
  cases hvalues
  rw [hname] at haccepts
  obtain ⟨key, hkey, hverify⟩ := KeyEntry.rsa_of_anyAccepts haccepts
  obtain ⟨-, hmodulus, hexponent⟩ := VerificationKey.rsaOfMembers_eq_ok hkey
  exact ⟨hash, key, hname, hmodulus, hexponent, (Rsa.verify_eq_true_iff.mp hverify).2⟩

/-- The document plays a part in the selection of the key and nowhere else. -/
theorem check_withKeys_of_selectKey_eq {v : Verifier} {keys keys' : KeySet} {raw : Json}
    {token : SignedToken} (now : Int) (htoken : SignedToken.ofJson? raw = some token)
    (h : selectKey keys' (token.header.get "kid") = selectKey keys (token.header.get "kid")) :
    (v.withKeys (.obj keys')).check now raw = (v.withKeys (.obj keys)).check now raw := by
  have hsigned : (v.withKeys (.obj keys')).signedClaims raw =
      (v.withKeys (.obj keys)).signedClaims raw := by
    rw [signedClaims_of_token htoken, signedClaims_of_token htoken]
    simp only [claimsOf, loadKeys, withKeys]
    exact congrArg (· >>= fun entry ↦ do
      v.checkSignature token entry
      readClaims token) h
  rw [check, hsigned]
  rfl

/-- **What an accepted token is bound to.** If only signatures with RSA are admitted, the header of
an accepted token names one of them, its claims are the payload that is signed, and it is signed
under the numbers of the entry that its header selects. And a document whose keys are rotated, the
one that the header names excepted, gives the same outcome. -/
theorem check_keyBound (v : Verifier) :
    ((∀ name ∈ v.algorithms, name ∈ SigningAlgorithm.rsaNames) →
      ∀ document now raw claims, (v.withKeys document).check now (.str raw) = .ok claims →
        ∃ (text : String) (token : SignedToken) (header payload signature : Bytes) (name : Text)
            (keys : KeySet) (items : List Json) (entry : Members),
          raw = text ∧ token.IsWritten (utf8 text) header payload signature ∧
          token.header.get? "alg" = some (.str name) ∧ name ∈ v.algorithms ∧
          Json.ofUtf8 token.payload = .ok (.obj claims) ∧
          document = .obj keys ∧ Members.get? keys "keys" = some (.arr items) ∧
          KeySet.Selects items (token.header.get "kid") entry ∧
          (entry.has "kty" = true → entry.has "keys" = false →
            token.IsSignedWith name entry)) ∧
      ∀ (keys keys' : KeySet) items items' now (text : String) token,
        keys.get? "keys" = some (.arr items) → keys'.get? "keys" = some (.arr items') →
        SignedToken.ofBytes? (utf8 text) = some token → (token.header.get "kid").isNull = false →
        KeySet.Rotated (token.header.get "kid") items items' →
        (v.withKeys (.obj keys')).check now (.str text) =
          (v.withKeys (.obj keys)).check now (.str text) := by
  constructor
  · intro hnames document now raw claims h
    obtain ⟨hsigned, -⟩ := check_eq_ok_iff.mp h
    obtain ⟨token, keys, entry, htoken, hkeys, hentry, hsignature, hclaims⟩ :=
      signedClaims_eq_ok_iff.mp hsigned
    obtain ⟨text, hraw, hbytes⟩ := SignedToken.ofJson?_eq_some_iff.mp htoken
    obtain ⟨header, payload, signature, hwritten⟩ := SignedToken.ofBytes?_eq_some_iff.mp hbytes
    obtain ⟨items, hitems, hselects⟩ := selectKey_eq_ok_iff.mp hentry
    obtain ⟨name, hmem, halg, hbound⟩ := isSignedWith_of_checkSignature hnames hsignature
    exact ⟨text, token, header, payload, signature, name, keys, items, entry, Json.str.inj hraw,
      hwritten, halg, hmem, hclaims, KeySource.document.inj hkeys, hitems, hselects, hbound⟩
  · intro keys keys' items items' now text token hkeys hkeys' htoken hkid hrotated
    exact check_withKeys_of_selectKey_eq now htoken (selectKey_rotated hkeys hkeys' hkid hrotated)

def sampleEntry : Members :=
  [("kty", .str "RSA"), ("kid", .str "k1"), ("e", .str "AQAB"), ("n", .str sampleModulus)]

/-- The document after a rotation: another key has come, and something that is no key. -/
def rotatedKeys : KeySet :=
  [("keys", .arr [.str "k1", .obj [("kty", .str "RSA"), ("kid", .str "k0")], .obj sampleEntry])]

theorem header_fullToken :
    ∃ token, SignedToken.ofBytes? (utf8 fullToken) = some token ∧
      token.header.get "kid" = .str "k1" := by
  have h : (SignedToken.ofBytes? (utf8 fullToken)).map (fun token ↦ token.header.get "kid") =
      some (.str "k1") := by
    have hletters := @utf8_eq_encodeUtf8 fullToken _ (append_eq_ofList (append_eq_ofList
      (append_eq_ofList (append_eq_ofList rfl rfl) rfl) rfl) rfl)
    rw [hletters]
    decide +kernel
  exact Option.map_eq_some_iff.mp h

/-- A token that is signed with the sample entry, before and after a rotation. -/
theorem check_keyBound_fullToken :
    (∃ token, SignedToken.ofBytes? (utf8 fullToken) = some token ∧
        token.IsSignedWith "RS256" sampleEntry) ∧
      (sampleVerifier.withKeys (.obj rotatedKeys)).check 1893456000 (.str fullToken) =
        .ok fullClaims := by
  obtain ⟨hbound, hrotated⟩ := check_keyBound sampleVerifier
  constructor
  · obtain ⟨text, token, header, payload, signature, name, keys, items, entry, htext, hwritten, -,
      hmem, -, hdocument, hitems, hselects, hsigned⟩ :=
      hbound (by decide) sampleKeys 1893456000 fullToken fullClaims check_fullToken
    cases htext
    cases hdocument
    cases hitems
    have hentry : entry = sampleEntry := by
      have hentry := KeySet.mem_of_selects hselects
      rw [List.mem_singleton] at hentry
      exact Json.obj.inj hentry
    subst hentry
    have hname : name = "RS256" := List.mem_singleton.mp hmem
    subst hname
    exact ⟨token, SignedToken.ofBytes?_eq_some_iff.mpr ⟨header, payload, signature, hwritten⟩,
      hsigned rfl rfl⟩
  · obtain ⟨token, htoken, hkid⟩ := header_fullToken
    have hcomes : KeySet.Rotated (.str "k1") [.obj sampleEntry]
        [.obj [("kty", .str "RSA"), ("kid", .str "k0")], .obj sampleEntry] :=
      @KeySet.Rotated.insert _ _ [] _ _ (.refl _) rfl
    have hrotation : KeySet.Rotated (.str "k1") [.obj sampleEntry]
        [.str "k1", .obj [("kty", .str "RSA"), ("kid", .str "k0")], .obj sampleEntry] :=
      @KeySet.Rotated.insert _ _ [] _ _ hcomes rfl
    exact (hrotated [("keys", .arr [.obj sampleEntry])] rotatedKeys _ _ 1893456000 fullToken token
      rfl rfl htoken (hkid ▸ rfl) (hkid ▸ hrotation)).trans check_fullToken

end Verifier

end SessionGate
