import SessionGate.Proofs.Steps
import SessionGate.Proofs.TextParts
import SessionGate.Verifier

/-!
# How signed claims are read

`Verifier.signedClaims` is a chain of steps: the token is taken apart, the document loaded, an entry
selected, the signature checked and the payload read. Each step has one equivalence here that says
when it succeeds and with what, and `Verifier.signedClaims_eq_ok_iff` puts them together.

## Where a token is cut

The signature is cut off at the last point and the header at the first one of what is left.
`SignedToken.IsWritten` says the same from the other end: the bytes are three segments with two
points between them, no point stands in the first and none in the last.
-/

namespace SessionGate

open Text

namespace Text

/-! ## Letters of a text -/

theorem append_eq_ofList {s t : String} {cs ds : List Char} (hs : s = String.ofList cs)
    (ht : t = String.ofList ds) : s ++ t = String.ofList (cs ++ ds) := by
  rw [hs, ht, String.ofList_append]

theorem utf8_eq_encodeUtf8 {s : String} {cs : List Char} (h : s = String.ofList cs) :
    utf8 s = encodeUtf8 cs := by
  rw [h, utf8, String.toList_ofList]

end Text

/-! ## Taking a token apart -/

namespace SignedToken

/-- The bytes are the segments of a token: a header up to the first point, a signature from the last
point on, and everything between them. What is signed is all that stands before the signature. -/
structure IsWritten (token : SignedToken) (bs header payload signature : Bytes) : Prop where
  bytes_eq : bs = header ++ point :: payload ++ point :: signature
  header_pointless : point ∉ header
  signature_pointless : point ∉ signature
  signed_eq : token.signed = header ++ point :: payload
  header_read : ∃ text, Base64.decodeSegment? header = some text ∧
    Json.ofUtf8 text = .ok (.obj token.header)
  payload_read : Base64.decodeSegment? payload = some token.payload
  signature_read : Base64.decodeSegment? signature = some token.signature

theorem readHeader?_eq_some_iff {bs : Bytes} {ms : Members} :
    readHeader? bs = some ms ↔ Json.ofUtf8 bs = .ok (.obj ms) := by
  rw [readHeader?]
  rcases Json.ofUtf8 bs with fault | v
  · exact iff_of_false (fun h ↦ (nomatch h)) (fun h ↦ (nomatch h))
  · cases v <;> simp

theorem ofBytes?_eq_some_iff {bs : Bytes} {token : SignedToken} :
    ofBytes? bs = some token ↔
      ∃ header payload signature, token.IsWritten bs header payload signature := by
  simp only [ofBytes?, Option.bind_eq_bind, Option.bind_eq_some_iff, Option.pure_def,
    Option.some.injEq, Prod.exists]
  constructor
  · rintro ⟨signed, signature, hlast, header, payload, hfirst, ms, ⟨text, htext, hms⟩, bytes,
      hbytes, sig, hsig, rfl⟩
    obtain ⟨hbs, hsignature⟩ := cutLast?_eq_some_iff.mp hlast
    obtain ⟨hsigned, hheader⟩ := cut?_eq_some_iff.mp hfirst
    exact ⟨header, payload, signature, by rw [hbs, hsigned], hheader, hsignature, hsigned,
      ⟨text, htext, readHeader?_eq_some_iff.mp hms⟩, hbytes, hsig⟩
  · rintro ⟨header, payload, signature, h⟩
    obtain ⟨text, htext, hms⟩ := h.header_read
    refine ⟨token.signed, signature, ?_, header, payload, ?_, token.header,
      ⟨text, htext, readHeader?_eq_some_iff.mpr hms⟩, token.payload, h.payload_read,
      token.signature, h.signature_read, rfl⟩
    · rw [h.signed_eq]
      exact cutLast?_eq_some_iff.mpr ⟨h.bytes_eq, h.signature_pointless⟩
    · exact cut?_eq_some_iff.mpr ⟨h.signed_eq, h.header_pointless⟩

theorem ofJson?_eq_some_iff {raw : Json} {token : SignedToken} :
    ofJson? raw = some token ↔
      ∃ text : String, raw = .str text ∧ ofBytes? (utf8 text) = some token := by
  cases raw with
  | str s => cases s <;> simp [ofJson?]
  | _ => simp [ofJson?]

/-- What can be taken apart is no empty text. -/
theorem isSet_of_ofJson? {raw : Json} {token : SignedToken} (h : ofJson? raw = some token) :
    raw.isSet = true := by
  obtain ⟨text, rfl, htoken⟩ := ofJson?_eq_some_iff.mp h
  by_cases hempty : text = ""
  · rw [hempty] at htoken
    cases htoken
  · simp [Json.isSet, hempty]

end SignedToken

/-! ## The steps -/

namespace Verifier

variable {v : Verifier}

theorem loadKeys_eq_ok_iff {keys : KeySet} :
    v.loadKeys = .ok keys ↔ v.keys = .document (.obj keys) := by
  rw [loadKeys]
  rcases v.keys with doc | message
  · cases doc <;> simp
  · simp

/-- An algorithm is admitted by its name. -/
theorem admitted_eq_ok_iff {header : Members} {algorithm : Option SigningAlgorithm} :
    v.admitted header = .ok algorithm ↔
      ∃ name, header.get? "alg" = some (.str name) ∧ name ≠ "" ∧ name ∈ v.algorithms ∧
        algorithm = name.string?.bind SigningAlgorithm.ofName? := by
  rw [admitted, Members.get]
  cases header.get? "alg" with
  | none => simp [Json.isSet]
  | some alg =>
    cases alg with
    | str name =>
      by_cases hname : name = ""
      · simp [hname, Json.isSet]
      · by_cases hmem : name ∈ v.algorithms
        · simp [hname, hmem, Json.isSet, @eq_comm _ algorithm]
        · simp [hname, hmem, Json.isSet]
    | _ =>
      simp only [Option.getD_some, Option.some.injEq, reduceCtorEq, false_and, exists_false,
        iff_false]
      split <;>
        · intro h
          cases h

theorem checkSignature_eq_ok_iff {token : SignedToken} {entry : Members} :
    v.checkSignature token entry = .ok () ↔
      ∃ algorithm values, v.admitted token.header = .ok algorithm ∧
        KeyEntry.candidates entry = .ok values ∧
        KeyEntry.anyAccepts algorithm token.signed token.signature values = .ok true := by
  rw [checkSignature, bind_eq_ok_iff]
  constructor
  · rintro ⟨algorithm, hadmitted, h⟩
    cases hvalues : KeyEntry.candidates entry with
    | error fault => rw [hvalues] at h; cases h
    | ok values =>
      rw [hvalues] at h
      simp only at h
      rcases haccepts : KeyEntry.anyAccepts algorithm token.signed token.signature values with
        fault | _ | _
      · rw [haccepts] at h; cases h
      · rw [haccepts] at h; cases h
      · exact ⟨algorithm, values, hadmitted, rfl, haccepts⟩
  · rintro ⟨algorithm, values, hadmitted, hvalues, haccepts⟩
    exact ⟨algorithm, hadmitted, by simp only [hvalues, haccepts]⟩

theorem readClaims_eq_ok_iff {token : SignedToken} {claims : Members} :
    readClaims token = .ok claims ↔ Json.ofUtf8 token.payload = .ok (.obj claims) := by
  rw [readClaims]
  rcases Json.ofUtf8 token.payload with fault | payload
  · refine iff_of_false ?_ (fun h ↦ (nomatch h))
    cases fault <;> exact fun h ↦ (nomatch h)
  · cases payload <;> simp

/-! ## All steps -/

/-- What is done with a token once it is taken apart. -/
def claimsOf (v : Verifier) (token : SignedToken) : Except VerificationFault Members := do
  let keys ← v.loadKeys
  let entry ← selectKey keys (token.header.get "kid")
  v.checkSignature token entry
  readClaims token

theorem signedClaims_of_token {raw : Json} {token : SignedToken}
    (h : SignedToken.ofJson? raw = some token) : v.signedClaims raw = v.claimsOf token := by
  rw [signedClaims, SignedToken.isSet_of_ofJson? h, h]
  rfl

/-- The claims of a text can be computed from its letters. -/
theorem signedClaims_of_letters {s : String} {cs : List Char} {claims : Members}
    (hs : s = String.ofList cs)
    (h : ((SignedToken.ofBytes? (encodeUtf8 cs)).bind fun token ↦
      (v.claimsOf token).toOption) = some claims) :
    v.signedClaims (.str s) = .ok claims := by
  obtain ⟨token, htoken, hclaims⟩ := Option.bind_eq_some_iff.mp h
  rw [← utf8_eq_encodeUtf8 hs] at htoken
  rw [signedClaims_of_token (SignedToken.ofJson?_eq_some_iff.mpr ⟨s, rfl, htoken⟩)]
  exact toOption_eq_some_iff.mp hclaims

theorem signedClaims_eq_ok_iff {raw : Json} {claims : Members} :
    v.signedClaims raw = .ok claims ↔
      ∃ token keys entry, SignedToken.ofJson? raw = some token ∧
        v.keys = .document (.obj keys) ∧
        selectKey keys (token.header.get "kid") = .ok entry ∧
        v.checkSignature token entry = .ok () ∧ Json.ofUtf8 token.payload = .ok (.obj claims) := by
  constructor
  · intro h
    cases htoken : SignedToken.ofJson? raw with
    | none =>
      rw [signedClaims, htoken] at h
      cases hset : raw.isSet <;> rw [hset] at h <;> cases h
    | some token =>
      rw [signedClaims_of_token htoken, claimsOf] at h
      obtain ⟨keys, hkeys, h⟩ := bind_eq_ok_iff.mp h
      obtain ⟨entry, hentry, h⟩ := bind_eq_ok_iff.mp h
      obtain ⟨hsignature, h⟩ := unit_bind_eq_ok_iff.mp h
      exact ⟨token, keys, entry, rfl, loadKeys_eq_ok_iff.mp hkeys, hentry, hsignature,
        readClaims_eq_ok_iff.mp h⟩
  · rintro ⟨token, keys, entry, htoken, hkeys, hentry, hsignature, hclaims⟩
    rw [signedClaims_of_token htoken, claimsOf, bind_eq_ok_iff]
    refine ⟨keys, loadKeys_eq_ok_iff.mpr hkeys, bind_eq_ok_iff.mpr ⟨entry, hentry, ?_⟩⟩
    exact unit_bind_eq_ok_iff.mpr ⟨hsignature, readClaims_eq_ok_iff.mpr hclaims⟩

end Verifier

end SessionGate
