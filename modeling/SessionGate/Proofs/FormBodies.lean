import SessionGate.Proofs.Exchanges
import SessionGate.Proofs.TextParts
import SessionGate.Proofs.Utf8Texts

/-!
# Forms say what was put into them

A form body is read back as the pairs it was written from, whatever their texts hold:
`Form.decode?_of_encode?`. So a value cannot end its field and begin another one, and a form for a
grant holds the fields of the grant and the credentials of the client, each with the value that was
given for it: `TokenEndpoint.exchange_form`.

## Why it cannot be forged

The two marks of a form are never written inside a component, since they are not plain
(`Form.isUnmarked_of_mem`). So a body comes apart at its ampersands into what its pairs
were written as, and a pair at its equals sign. A component is read byte by byte: each character is
written as the plain character it is, as the plus sign for a blank, or as its bytes in UTF-8.
-/

namespace SessionGate

open Text

/-! ## Bytes in hexadecimal -/

namespace Text

theorem hexDigit?_toUpper_digitChar :
    ∀ {n : Nat}, n < 16 → hexDigit? (Nat.digitChar n).toUpper = some n := by
  decide

/-- No digit is a mark of a form. -/
theorem toUpper_digitChar_ne :
    ∀ {n : Nat}, n < 16 → (Nat.digitChar n).toUpper ≠ '&' ∧ (Nat.digitChar n).toUpper ≠ '=' := by
  decide

/-- A byte is written with a percent sign and its two digits. -/
theorem Percent.encodeByte_eq (b : UInt8) :
    encodeByte b = ['%', (Nat.digitChar (b.toNat / 16 % 16)).toUpper,
      (Nat.digitChar (b.toNat % 16)).toUpper] := by
  have hdigits : hexDigits 2 b.toNat =
      [Nat.digitChar (b.toNat / 16 % 16), Nat.digitChar (b.toNat / 1 % 16)] := rfl
  rw [encodeByte, hdigits, Nat.div_one]
  rfl

end Text

namespace Form

/-! ## Marks -/

/-- A character that is no mark of a form. -/
def IsUnmarked (c : Char) : Prop := c ≠ '&' ∧ c ≠ '='

theorem isUnmarked_of_mem_encodeByte {b : UInt8} {c : Char} (h : c ∈ Percent.encodeByte b) :
    IsUnmarked c := by
  rw [Percent.encodeByte_eq, List.mem_cons, List.mem_cons, List.mem_singleton] at h
  rcases h with rfl | rfl | rfl
  · exact ⟨by decide, by decide⟩
  · exact toUpper_digitChar_ne (Nat.mod_lt _ (by decide))
  · exact toUpper_digitChar_ne (Nat.mod_lt _ (by decide))

theorem isUnmarked_of_isPlain {c : Char} (h : Percent.isPlain c = true) : IsUnmarked c := by
  constructor
  · rintro rfl
    exact absurd h (by decide)
  · rintro rfl
    exact absurd h (by decide)

/-- **No mark stands inside a component.** -/
theorem isUnmarked_of_mem {t : Text} {cs : List Char} {c : Char} (h : encodeText? t = some cs)
    (hc : c ∈ cs) : IsUnmarked c := by
  obtain ⟨s, -, rfl⟩ := Option.map_eq_some_iff.mp h
  obtain ⟨d, -, hd⟩ := List.mem_flatMap.mp hc
  rw [encodeChar] at hd
  split at hd
  · rw [List.mem_singleton.mp hd]
    exact ⟨by decide, by decide⟩
  · split at hd
    · next hplain =>
      rw [List.mem_singleton.mp hd]
      exact isUnmarked_of_isPlain hplain
    · obtain ⟨b, -, hb⟩ := List.mem_flatMap.mp hd
      exact isUnmarked_of_mem_encodeByte hb

theorem encodePair?_eq_some_iff {p : Text × Text} {cs : List Char} :
    encodePair? p = some cs ↔ ∃ name value, encodeText? p.1 = some name ∧
      encodeText? p.2 = some value ∧ name ++ '=' :: value = cs := by
  rw [encodePair?]
  cases encodeText? p.1 <;> cases encodeText? p.2 <;> simp

/-- No ampersand stands inside a pair. -/
theorem ampersand_not_mem {p : Text × Text} {cs : List Char} (h : encodePair? p = some cs) :
    '&' ∉ cs := by
  obtain ⟨name, value, hname, hvalue, rfl⟩ := encodePair?_eq_some_iff.mp h
  intro hmem
  rw [List.mem_append, List.mem_cons] at hmem
  rcases hmem with hmem | hmem | hmem
  · exact (isUnmarked_of_mem hname hmem).1 rfl
  · exact absurd hmem (by decide)
  · exact (isUnmarked_of_mem hvalue hmem).1 rfl

/-! ## Components -/

theorem decodeBytes_encodeByte (b : UInt8) (rest : List Char) :
    decodeBytes (Percent.encodeByte b ++ rest) = (decodeBytes rest).map (b :: ·) := by
  have hhigh : b.toNat / 16 % 16 < 16 := Nat.mod_lt _ (by decide)
  have hlow : b.toNat % 16 < 16 := Nat.mod_lt _ (by decide)
  have hvalue : (b.toNat / 16 % 16 * 16 + b.toNat % 16).toUInt8 = b := by
    have hb := b.toNat_lt
    have hsum : b.toNat / 16 % 16 * 16 + b.toNat % 16 = b.toNat := by omega
    rw [hsum]
    exact UInt8.ofNat_toNat
  simp only [Percent.encodeByte_eq, List.cons_append, List.nil_append, decodeBytes,
    hexDigit?_toUpper_digitChar hhigh, hexDigit?_toUpper_digitChar hlow, Option.bind_eq_bind,
    Option.bind_some, hvalue]
  cases decodeBytes rest <;> rfl

theorem decodeBytes_encodeBytes (bs : Bytes) (rest : List Char) :
    decodeBytes (bs.flatMap Percent.encodeByte ++ rest) = (decodeBytes rest).map (bs ++ ·) := by
  induction bs with
  | nil => simp
  | cons b bs ih =>
    rw [List.flatMap_cons, List.append_assoc, decodeBytes_encodeByte, ih, Option.map_map]
    rfl

/-- A plain character is read as itself. -/
theorem decodeBytes_of_isPlain {c : Char} (h : Percent.isPlain c = true) (rest : List Char) :
    decodeBytes (c :: rest) = (decodeBytes rest).map (charBytes c ++ ·) := by
  have hplus : c ≠ '+' := by
    rintro rfl
    exact absurd h (by decide)
  have hpercent : c ≠ '%' := by
    rintro rfl
    exact absurd h (by decide)
  rw [decodeBytes]
  · rw [if_neg hpercent]
  · exact fun hc ↦ hplus hc
  · exact fun a b more hc _ ↦ hpercent hc

theorem decodeBytes_encodeChar (c : Char) (rest : List Char) :
    decodeBytes (encodeChar c ++ rest) = (decodeBytes rest).map (charBytes c ++ ·) := by
  rw [encodeChar]
  split
  · next hblank =>
    rw [hblank]
    rfl
  · split
    · next hplain => exact decodeBytes_of_isPlain hplain rest
    · exact decodeBytes_encodeBytes (charBytes c) rest

theorem decodeBytes_encodeChars (cs : List Char) :
    decodeBytes (cs.flatMap encodeChar) = some (encodeUtf8 cs) := by
  induction cs with
  | nil => rfl
  | cons c cs ih =>
    rw [List.flatMap_cons, decodeBytes_encodeChar, ih]
    rfl

/-- A component is read back. -/
theorem decodeText?_of_encodeText? {t : Text} {cs : List Char} (h : encodeText? t = some cs) :
    decodeText? cs = some t := by
  obtain ⟨s, hs, rfl⟩ := Option.map_eq_some_iff.mp h
  rw [decodeText?, decodeBytes_encodeChars, string?_eq_some_iff.mp hs]
  simp [decodeUtf8_encodeUtf8, Except.toOption]

/-! ## Pairs -/

theorem decodePair?_of_encodePair? {p : Text × Text} {cs : List Char}
    (h : encodePair? p = some cs) : decodePair? cs = some p := by
  obtain ⟨name, value, hname, hvalue, rfl⟩ := encodePair?_eq_some_iff.mp h
  have hmarks : ∀ c ∈ name, decide (c ≠ '=') = true :=
    fun c hc ↦ decide_eq_true (isUnmarked_of_mem hname hc).2
  rw [decodePair?, List.takeWhile_append_of_pos hmarks, List.dropWhile_append_of_pos hmarks]
  simp [decodeText?_of_encodeText? hname, decodeText?_of_encodeText? hvalue]

/-- The pairs and what they are written as, one by one. -/
theorem mapM_encodePair?_eq_some_iff {form : Form} {parts : List (List Char)} :
    form.mapM encodePair? = some parts ↔
      List.Forall₂ (fun p cs ↦ encodePair? p = some cs) form parts := by
  induction form generalizing parts with
  | nil => simp [eq_comm]
  | cons p form ih =>
    simp only [List.mapM_cons, Option.bind_eq_bind, Option.bind_eq_some_iff, Option.pure_def,
      Option.some.injEq, ih]
    constructor
    · rintro ⟨cs, hp, rest, hrest, rfl⟩
      exact .cons hp hrest
    · intro h
      cases h with
      | cons hp hrest => exact ⟨_, hp, _, hrest, rfl⟩

theorem mapM_decodePair? {form : Form} {parts : List (List Char)}
    (h : List.Forall₂ (fun p cs ↦ encodePair? p = some cs) form parts) :
    parts.mapM decodePair? = some form := by
  induction h with
  | nil => rfl
  | cons hp _ ih =>
    rw [List.mapM_cons, decodePair?_of_encodePair? hp, ih]
    rfl

/-- Parts that stand for pairs hold no ampersand. -/
theorem flatMap_splitOn {form : Form} {parts : List (List Char)}
    (h : List.Forall₂ (fun p cs ↦ encodePair? p = some cs) form parts) :
    parts.flatMap (splitOn '&') = parts := by
  induction h with
  | nil => rfl
  | cons hp _ ih => rw [List.flatMap_cons, ih, splitOn_of_not_mem (ampersand_not_mem hp)]; rfl

/-- A body that holds pairs is not empty. -/
theorem intercalate_ne_nil {form : Form} {parts : List (List Char)} (hne : parts ≠ [])
    (h : List.Forall₂ (fun p cs ↦ encodePair? p = some cs) form parts) :
    ['&'].intercalate parts ≠ [] := by
  cases h with
  | nil => exact absurd rfl hne
  | cons hp hrest =>
    obtain ⟨name, value, -, -, rfl⟩ := encodePair?_eq_some_iff.mp hp
    cases hrest with
    | nil => simp
    | cons _ _ => simp [List.intercalate_cons_cons]

/-- **A form is read back as its pairs.** -/
theorem decode?_of_encode? {form : Form} {body : String} (h : encode? form = some body) :
    decode? body = some form := by
  obtain ⟨parts, hmap, rfl⟩ := Option.map_eq_some_iff.mp h
  have hparts := mapM_encodePair?_eq_some_iff.mp hmap
  by_cases hne : parts = []
  · subst hne
    cases hparts
    rfl
  · have hbody : String.ofList (['&'].intercalate parts) ≠ "" := fun hempty ↦
      intercalate_ne_nil hne hparts (String.ofList_eq_empty_iff.mp hempty)
    rw [decode?, if_neg hbody, String.toList_ofList, splitOn_intercalate hne,
      flatMap_splitOn hparts, mapM_decodePair? hparts]

/-- Forms differ if their pairs do. -/
theorem encode?_injective {form form' : Form} {body : String} (h : encode? form = some body)
    (h' : encode? form' = some body) : form = form' :=
  Option.some.inj ((decode?_of_encode? h).symm.trans (decode?_of_encode? h'))

end Form

/-! ## Grants -/

/-- A request that is made goes out unless its URL, its headers or the connection forbid it. -/
theorem Action.sent_perform_send (r : Request) (w : World) :
    ((Action.send r).perform w).2.sent =
      match r.destination with
      | .error _ => w.sent
      | .ok url => if w.isClosed then w.sent else w.sent ++ [w.dress (r.sentTo url)] := by
  rw [Action.perform_send]
  cases r.destination with
  | error defect => rfl
  | ok url =>
    by_cases hclosed : w.isClosed = true
    · simp only [if_pos hclosed]
    · simp only [if_neg hclosed]
      exact w.send_sent (r.sentTo url)

def Form.ofStrings (pairs : List (String × String)) : Form :=
  pairs.map fun p ↦ (.plain p.1, .plain p.2)

theorem Form.isSome_encode?_ofStrings (pairs : List (String × String)) :
    (encode? (ofStrings pairs)).isSome = true := by
  rw [isSome_encode?, List.all_eq_true]
  intro p hp
  obtain ⟨_, -, rfl⟩ := List.mem_map.mp hp
  rfl

/-- A grant of Unicode texts, with the fields that say what it is. -/
inductive Grant.HasFields : Grant → List (String × String) → Prop
  | code (value redirectUrl : String) : HasFields (.code value redirectUrl)
      [("grant_type", "authorization_code"), ("code", value), ("redirect_uri", redirectUrl)]
  | refresh (token : String) : HasFields (.refresh (.str token))
      [("grant_type", "refresh_token"), ("refresh_token", token)]

/-- A request that posts a form, which is read as the given pairs and no others. -/
structure Request.PostsForm (r : Request) (pairs : List (String × String)) : Prop where
  method_eq : r.method = "POST"
  contentType_eq : r.contentType = some "application/x-www-form-urlencoded"
  read : ∃ body, r.content? = some body ∧ Form.decode? body = some (Form.ofStrings pairs)

namespace TokenEndpoint

variable {grant : Grant} {fields : List (String × String)} {clientId clientSecret : String}
  {url : Text}

/-- The fields of a grant, and then the credentials of the client. -/
def fieldsWith (clientId clientSecret : String) (fields : List (String × String)) :
    List (String × String) :=
  fields ++ [("client_id", clientId), ("client_secret", clientSecret)]

theorem pairs_eq (h : grant.HasFields fields) :
    pairs ⟨clientId, clientSecret, url⟩ grant =
      Form.ofStrings (fieldsWith clientId clientSecret fields) := by
  cases h <;> rfl

/-- Fields and credentials are told from the form. -/
theorem eq_of_pairs_eq {e' : TokenEndpoint} {grant' : Grant} {fields' : List (String × String)}
    {e : TokenEndpoint} (h : grant.HasFields fields) (h' : grant'.HasFields fields')
    (hpairs : e'.pairs grant' = e.pairs grant) :
    grant' = grant ∧ e'.clientId = e.clientId ∧ e'.clientSecret = e.clientSecret := by
  rw [pairs, pairs] at hpairs
  cases h <;> cases h' <;>
    simp_all [Grant.pairs, Form.field, Form.fieldText, Json.display]

/-- A request for a grant of texts goes to the endpoint if that has a URL. -/
theorem destination_request (h : grant.HasFields fields) :
    (request ⟨clientId, clientSecret, url⟩ grant).destination =
      match Url.ofText? url with
      | none => .error (if Url.isUnwritable url then .notUnicode else .invalidUrl)
      | some url => .ok url.destination := by
  have hurl : (request ⟨clientId, clientSecret, url⟩ grant).url = url := rfl
  have hform : (request ⟨clientId, clientSecret, url⟩ grant).content?.isNone = false := by
    have hsome := Form.isSome_encode?_ofStrings (fieldsWith clientId clientSecret fields)
    rw [← @pairs_eq _ _ clientId clientSecret url h] at hsome
    rw [← Option.not_isSome, Request.content?]
    exact congrArg (!·) hsome
  rw [Request.destination, hurl, hform]
  cases Url.ofText? url <;> rfl

/-- **A form for a grant says what was granted.** For every grant of Unicode texts one form is
posted, unless the endpoint has no URL or the connection is closed. It is read as the fields of the
grant and the credentials of the client, in this order and nothing else; so a form of another grant
or of another client is another form. -/
theorem exchange_form (clientId clientSecret : String) (url : Text) (h : grant.HasFields fields)
    (w : World) :
    let e : TokenEndpoint := ⟨clientId, clientSecret, url⟩
    (if (Url.ofText? url).isSome ∧ w.isClosed = false then
      ∃ r, ((e.exchange grant).perform w).2.sent = w.sent ++ [r] ∧
        r.content? = (e.request grant).content? ∧
        r.PostsForm (fieldsWith clientId clientSecret fields)
    else ((e.exchange grant).perform w).2.sent = w.sent) ∧
      ∀ (clientId' clientSecret' : String) (url' : Text) (grant' : Grant)
        (fields' : List (String × String)), grant'.HasFields fields' →
        (request ⟨clientId', clientSecret', url'⟩ grant').content? = (e.request grant).content? →
        grant' = grant ∧ clientId' = clientId ∧ clientSecret' = clientSecret := by
  intro e
  have hsome := Form.isSome_encode?_ofStrings (fieldsWith clientId clientSecret fields)
  obtain ⟨body, hbody⟩ := Option.isSome_iff_exists.mp hsome
  rw [← @pairs_eq _ _ clientId clientSecret url h] at hbody
  constructor
  · have hsent : ((e.exchange grant).perform w).2.sent =
        ((Action.send (e.request grant)).perform w).2.sent := by
      rw [perform_exchange]
      rcases (Action.send (e.request grant)).perform w with ⟨failure | reply, after⟩ <;> rfl
    rw [hsent, Action.sent_perform_send, destination_request h]
    cases Url.ofText? url with
    | none => simp
    | some url =>
      cases hclosed : w.isClosed with
      | true => simp
      | false =>
        rw [if_pos ⟨rfl, rfl⟩]
        refine ⟨w.dress ((e.request grant).sentTo url.destination), rfl, rfl, rfl, rfl, body,
          hbody, ?_⟩
        rw [← pairs_eq h]
        exact Form.decode?_of_encode? hbody
  · intro clientId' clientSecret' url' grant' fields' h' hcontent
    have hpairs := Form.encode?_injective (hcontent.trans hbody) hbody
    obtain ⟨hgrant, hid, hsecret⟩ := eq_of_pairs_eq h h' hpairs
    exact ⟨hgrant, Text.plain.inj hid, Text.plain.inj hsecret⟩

/-- A code that looks like fields is a code. -/
theorem exchange_form_smuggledCode :
    (Grant.code "c&client_id=evil" "https://app/?a=1 +2%26").HasFields
        [("grant_type", "authorization_code"), ("code", "c&client_id=evil"),
          ("redirect_uri", "https://app/?a=1 +2%26")] ∧
      ∃ r, ((sampleProvider.data.tokenEndpoint.exchange
          (.code "c&client_id=evil" "https://app/?a=1 +2%26")).perform
            (answeringWorld (answerOf []))).2.sent = [r] ∧
        r.PostsForm [("grant_type", "authorization_code"), ("code", "c&client_id=evil"),
          ("redirect_uri", "https://app/?a=1 +2%26"), ("client_id", "client"),
          ("client_secret", "")] := by
  have hfields := Grant.HasFields.code "c&client_id=evil" "https://app/?a=1 +2%26"
  have hurl : (Url.ofText? sampleProvider.data.tokenEndpoint.url).isSome = true := by
    decide +kernel
  obtain ⟨hform, -⟩ := exchange_form "client" "" sampleProvider.data.tokenEndpoint.url hfields
    (answeringWorld (answerOf []))
  rw [if_pos ⟨hurl, rfl⟩] at hform
  obtain ⟨r, hsent, -, hposts⟩ := hform
  exact ⟨hfields, r, hsent, hposts⟩

end TokenEndpoint

end SessionGate
