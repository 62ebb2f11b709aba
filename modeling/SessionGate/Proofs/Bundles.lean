import SessionGate.Proofs.Breakdown
import SessionGate.Proofs.Refresh

/-!
# What an answer declares

The payload of an answer names an access token and may declare how many seconds it lives.
`TokenBundle.IsReadFrom` says what a bundle is made of, in terms of the payload and of the moment it
came, and `TokenBundle.ofMembers_eq_ok_iff` that this is what the reader makes of it.

## Lifetimes

`TokenBundle.Declares` says how many seconds a value declares, and `TokenBundle.Expires` when that
is. What declares nothing of the kind is refused, with two exceptions that nobody answers for: an
infinite number, and a lifetime that ends after the calendar does. `TokenBundle.Overruns` names the
two.
-/

namespace SessionGate

/-! ## Moments -/

namespace Moment

/-- A clock that shows the one moment shows the other so many seconds later. -/
structure IsAfter (m : Moment) (seconds : Int) (later : Moment) : Prop where
  offset : later.offset = m.offset
  instant : later.instant = m.instant + seconds * microsPerSecond

/-- The calendar has a moment so many seconds later. -/
def Reaches (m : Moment) (seconds : Int) : Prop :=
  ∃ later, m.IsAfter seconds later

variable {m later : Moment}

theorem addSeconds?_eq_some_iff {seconds : Nat} :
    m.addSeconds? seconds = some later ↔ m.IsAfter seconds later := by
  rw [addSeconds?, ofWall?]
  constructor
  · intro h
    split at h
    · cases h
      refine ⟨rfl, ?_⟩
      simp only [instant]
      push_cast
      omega
    · cases h
  · rintro ⟨hoffset, hinstant⟩
    have hwall : m.wall + seconds * microsPerSecond = later.wall := by
      simp only [instant, hoffset] at hinstant
      omega
    have hlt := later.wall_lt
    rw [← hwall] at hlt
    obtain ⟨wall, offset, wall_lt⟩ := later
    cases hwall
    cases hoffset
    exact dif_pos hlt

theorem addSeconds?_eq_none_iff {seconds : Nat} :
    m.addSeconds? seconds = none ↔ ¬m.Reaches seconds := by
  simp only [Option.eq_none_iff_forall_ne_some, ne_eq, addSeconds?_eq_some_iff, Reaches, not_exists]

end Moment

/-! ## Declared lifetimes -/

/-- Nobody answers for the failure. -/
def Failure.IsDefect (failure : Failure) : Prop :=
  ∃ d, failure = .defect d

@[simp] theorem Failure.isDefect_defect (d : Defect) : (defect d).IsDefect := ⟨d, rfl⟩

@[simp] theorem Failure.not_isDefect_refused (e : AccessError) : ¬(refused e).IsDefect :=
  fun ⟨_, h⟩ ↦ (nomatch h)

theorem Json.isNull_eq_true_iff {v : Json} : v.isNull = true ↔ v = .null := by
  cases v <;> simp [isNull]

theorem Json.toInteger_eq_infinite_iff {v : Json} :
    v.toInteger = .error .infinite ↔ ∃ negative, v = .float (.infinite negative) := by
  cases v with
  | str s =>
    exact iff_of_false (fun h ↦ (toInteger_str_eq_error h).2 rfl) fun ⟨_, h⟩ ↦ nomatch h
  | float x => cases x <;> simp [toInteger]
  | _ => simp [toInteger]

/-- A member that is read as a text that is not empty is there, and one. -/
theorem Members.nonEmptyStr?_get_iff {ms : Members} {name text : Text} :
    (ms.get name).nonEmptyStr? = some text ↔ ms.get? name = some (.str text) ∧ text ≠ "" := by
  rw [Json.nonEmptyStr?_eq_some_iff]
  refine and_congr_left fun _ ↦ ⟨get?_of_get_str, fun h ↦ ?_⟩
  rw [get, h]
  rfl

namespace TokenBundle

/-- The seconds that a value declares: none if it is null or an empty text, and otherwise those it
is read as. -/
inductive Declares : Json → Option Int → Prop
  | null : Declares .null none
  | empty : Declares (.str "") none
  | whole {lifetime : Json} {seconds : Int} (h : lifetime.toInteger = .ok seconds) :
      Declares lifetime (some seconds)

/-- When what was received at a moment expires, if it is ever said to. -/
inductive Expires (receivedAt : Moment) : Option Int → Option Moment → Prop
  | undeclared : Expires receivedAt none none
  | spent {seconds : Int} (h : seconds ≤ 0) : Expires receivedAt (some seconds) none
  | later {seconds : Int} {expiry : Moment} (hpos : 0 < seconds)
      (h : receivedAt.IsAfter seconds expiry) : Expires receivedAt (some seconds) (some expiry)

variable {receivedAt : Moment} {lifetime : Json} {seconds : Option Int} {expiry : Option Moment}

theorem lifetime?_eq_ok_iff : lifetime? lifetime = .ok seconds ↔ Declares lifetime seconds := by
  constructor
  · intro h
    rw [lifetime?] at h
    split at h
    · next hnone =>
      cases h
      rw [Bool.or_eq_true, Json.isNull_eq_true_iff, Json.same_str_iff] at hnone
      rcases hnone with rfl | rfl
      · exact .null
      · exact .empty
    · split at h
      · next n hn =>
        cases h
        exact .whole hn
      · cases h
      · cases h
  · rintro (_ | _ | hn)
    · rfl
    · rfl
    · -- a value that is read as an integer is neither null nor the empty text
      rw [lifetime?, hn, if_neg]
      rw [Bool.or_eq_true, Json.isNull_eq_true_iff, Json.same_str_iff]
      rintro (rfl | rfl) <;> cases hn

theorem lifetime?_failsWith_iff :
    FailsWith Failure.IsDefect (lifetime? lifetime) ↔
      ∃ negative, lifetime = .float (.infinite negative) := by
  rw [← Json.toInteger_eq_infinite_iff, lifetime?]
  split
  · next hnone =>
    refine iff_of_false (not_failsWith_ok none) fun hinfinite ↦ ?_
    rw [Bool.or_eq_true, Json.isNull_eq_true_iff, Json.same_str_iff] at hnone
    rcases hnone with rfl | rfl <;> cases hinfinite
  · split
    · next n hn => simp [hn, not_failsWith_ok]
    · next hinfinite => simp [hinfinite]
    · next fault hne hfault => simpa [hfault] using hne

theorem expiryAfter_eq_ok_iff :
    expiryAfter receivedAt seconds = .ok expiry ↔ Expires receivedAt seconds expiry := by
  constructor
  · intro h
    unfold expiryAfter at h
    split at h
    · cases h
      exact .undeclared
    · next n =>
      split at h
      · next hpos =>
        split at h
        · next moment hmoment =>
          cases h
          have hafter := Moment.addSeconds?_eq_some_iff.mp hmoment
          rw [Int.toNat_of_nonneg (Int.le_of_lt hpos)] at hafter
          exact .later hpos hafter
        · cases h
      · next hpos =>
        cases h
        exact .spent (Int.not_lt.mp hpos)
  · rintro (_ | hspent | ⟨hpos, hafter⟩)
    · rfl
    · exact if_neg (Int.not_lt.mpr hspent)
    · rw [← Int.toNat_of_nonneg (Int.le_of_lt hpos)] at hafter
      simp only [expiryAfter, if_pos hpos, Moment.addSeconds?_eq_some_iff.mpr hafter]

theorem expiryAfter_failsWith_iff :
    FailsWith Failure.IsDefect (expiryAfter receivedAt seconds) ↔
      ∃ n, seconds = some n ∧ 0 < n ∧ ¬receivedAt.Reaches n := by
  cases seconds with
  | none => exact iff_of_false (not_failsWith_ok none) (fun ⟨_, h, _⟩ ↦ nomatch h)
  | some n =>
    simp only [Option.some.injEq, exists_eq_left']
    by_cases hpos : 0 < n
    · have hreaches := @Moment.addSeconds?_eq_none_iff receivedAt n.toNat
      rw [Int.toNat_of_nonneg (Int.le_of_lt hpos)] at hreaches
      rw [← hreaches, expiryAfter]
      simp only [if_pos hpos]
      cases receivedAt.addSeconds? n.toNat <;> simp [hpos, not_failsWith_ok]
    · rw [expiryAfter]
      simp [hpos, not_failsWith_ok]

/-- Nobody answers for the lifetime: it is infinite, or it ends after the calendar does. -/
def Overruns (receivedAt : Moment) (lifetime : Json) : Prop :=
  (∃ negative, lifetime = .float (.infinite negative)) ∨
    ∃ n, lifetime.toInteger = .ok n ∧ 0 < n ∧ ¬receivedAt.Reaches n

/-- The lifetime is none or not positive, or it ends while there is a calendar. -/
def Lasts (receivedAt : Moment) (lifetime : Json) : Prop :=
  lifetime = .null ∨ lifetime = .str "" ∨
    ∃ n, lifetime.toInteger = .ok n ∧ (n ≤ 0 ∨ receivedAt.Reaches n)

theorem lasts_iff :
    Lasts receivedAt lifetime ↔
      ∃ seconds expiry, Declares lifetime seconds ∧ Expires receivedAt seconds expiry := by
  constructor
  · rintro (rfl | rfl | ⟨n, hn, hend⟩)
    · exact ⟨none, none, .null, .undeclared⟩
    · exact ⟨none, none, .empty, .undeclared⟩
    · by_cases hpos : 0 < n
      · obtain ⟨expiry, hafter⟩ := hend.resolve_left (Int.not_le.mpr hpos)
        exact ⟨some n, some expiry, .whole hn, .later hpos hafter⟩
      · exact ⟨some n, none, .whole hn, .spent (Int.not_lt.mp hpos)⟩
  · rintro ⟨seconds, expiry, hdeclares, hexpires⟩
    cases hdeclares with
    | null => exact .inl rfl
    | empty => exact .inr (.inl rfl)
    | whole hn =>
      cases hexpires with
      | spent hspent => exact .inr (.inr ⟨_, hn, .inl hspent⟩)
      | later _ hafter => exact .inr (.inr ⟨_, hn, .inr ⟨_, hafter⟩⟩)

theorem declares_some_iff {n : Int} :
    Declares lifetime (some n) ↔ lifetime.toInteger = .ok n :=
  ⟨fun h ↦ by cases h; assumption, .whole⟩

theorem Declares.eq_some {n : Int} (h : Declares lifetime seconds)
    (hn : lifetime.toInteger = .ok n) : seconds = some n := by
  cases h with
  | null => cases hn
  | empty => cases hn
  | whole hn' =>
    cases hn'.symm.trans hn
    rfl

/-- The two steps break down on what overruns. -/
theorem overruns_iff :
    Overruns receivedAt lifetime ↔
      FailsWith Failure.IsDefect (lifetime? lifetime >>= expiryAfter receivedAt) := by
  rw [failsWith_bind_iff, lifetime?_failsWith_iff, Overruns]
  simp only [lifetime?_eq_ok_iff, expiryAfter_failsWith_iff]
  refine or_congr_right ⟨?_, ?_⟩
  · rintro ⟨n, hn, hpast⟩
    exact ⟨some n, .whole hn, n, rfl, hpast⟩
  · rintro ⟨_, hdeclares, n, rfl, hpast⟩
    exact ⟨n, declares_some_iff.mp hdeclares, hpast⟩

/-! ## Bundles -/

/-- What a bundle holds that is read from a payload received at a moment. -/
structure IsReadFrom (bundle : TokenBundle) (payload : Members) (receivedAt : Moment) : Prop where
  extra : bundle.extra = payload
  accessToken : payload.get? "access_token" = some (.str bundle.accessToken)
  accessToken_ne : bundle.accessToken ≠ ""
  tokenType : bundle.tokenType = (payload.get "token_type").orElse (.str "Bearer")
  refreshToken : bundle.refreshToken = (payload.get "refresh_token").orElse (.str "")
  expiry : ∃ seconds, Declares (payload.get "expires_in") seconds ∧
    Expires receivedAt seconds bundle.expiry

/-- The payload names an access token. -/
def NamesAccess (payload : Members) : Prop :=
  ∃ token : Text, token ≠ "" ∧ payload.get? "access_token" = some (.str token)

variable {payload : Members} {bundle : TokenBundle}

theorem IsReadFrom.lasts (h : bundle.IsReadFrom payload receivedAt) :
    Lasts receivedAt (payload.get "expires_in") := by
  obtain ⟨seconds, hexpiry⟩ := h.expiry
  exact lasts_iff.mpr ⟨seconds, bundle.expiry, hexpiry⟩

/-- A lifetime that is positive is counted from the moment the payload came. -/
theorem IsReadFrom.expiry_of_pos (h : bundle.IsReadFrom payload receivedAt) {n : Int}
    (hn : (payload.get "expires_in").toInteger = .ok n) (hpos : 0 < n) :
    ∃ expiry, bundle.expiry = some expiry ∧ receivedAt.IsAfter n expiry := by
  obtain ⟨seconds, hdeclares, hexpires⟩ := h.expiry
  rw [hdeclares.eq_some hn] at hexpires
  generalize bundle.expiry = expiry at hexpires
  cases hexpires with
  | spent hspent => exact absurd hpos (Int.not_lt.mpr hspent)
  | later _ hafter => exact ⟨_, rfl, hafter⟩

/-- A lifetime that is none, or not positive, sets no expiry. -/
theorem IsReadFrom.expiry_of_spent (h : bundle.IsReadFrom payload receivedAt)
    (hspent : ∀ n, (payload.get "expires_in").toInteger = .ok n → n ≤ 0) :
    bundle.expiry = none := by
  obtain ⟨seconds, hdeclares, hexpires⟩ := h.expiry
  generalize bundle.expiry = expiry at hexpires
  cases hexpires with
  | undeclared => rfl
  | spent _ => rfl
  | later hpos _ => exact absurd hpos (Int.not_lt.mpr (hspent _ (declares_some_iff.mp hdeclares)))

theorem ofMembers_eq_ok_iff :
    ofMembers payload receivedAt = .ok bundle ↔ bundle.IsReadFrom payload receivedAt := by
  constructor
  · intro h
    rw [ofMembers] at h
    split at h
    · cases h
    · next token htoken =>
      obtain ⟨haccess, hne⟩ := Members.nonEmptyStr?_get_iff.mp htoken
      obtain ⟨seconds, hseconds, h⟩ := bind_eq_ok_iff.mp h
      obtain ⟨expiry, hexpiry, h⟩ := bind_eq_ok_iff.mp h
      cases h
      exact ⟨rfl, haccess, hne, rfl, rfl, seconds, lifetime?_eq_ok_iff.mp hseconds,
        expiryAfter_eq_ok_iff.mp hexpiry⟩
  · intro h
    obtain ⟨seconds, hdeclares, hexpires⟩ := h.expiry
    have htoken := Members.nonEmptyStr?_get_iff.mpr ⟨h.accessToken, h.accessToken_ne⟩
    rw [ofMembers, htoken]
    refine bind_eq_ok_iff.mpr ⟨seconds, lifetime?_eq_ok_iff.mpr hdeclares, ?_⟩
    refine bind_eq_ok_iff.mpr ⟨bundle.expiry, expiryAfter_eq_ok_iff.mpr hexpires, ?_⟩
    rw [← h.tokenType, ← h.refreshToken, ← h.extra]
    rfl

theorem ofMembers_failsWith_iff :
    FailsWith Failure.IsDefect (ofMembers payload receivedAt) ↔
      NamesAccess payload ∧ Overruns receivedAt (payload.get "expires_in") := by
  rw [ofMembers]
  split
  · next hnone =>
    refine iff_of_false (by simp) ?_
    rintro ⟨⟨token, hne, hget⟩, -⟩
    rw [Members.nonEmptyStr?_get_iff.mpr ⟨hget, hne⟩] at hnone
    cases hnone
  · next token htoken =>
    obtain ⟨hget, hne⟩ := Members.nonEmptyStr?_get_iff.mp htoken
    have hnames : NamesAccess payload := ⟨token, hne, hget⟩
    rw [and_iff_right hnames, overruns_iff, failsWith_bind_iff, failsWith_bind_iff]
    simp only [failsWith_bind_pure_iff]

/-- A payload is refused for its access token or for its lifetime. -/
theorem refused_of_ofMembers {e : AccessError}
    (h : ofMembers payload receivedAt = .error (.refused e)) :
    e = noAccessToken payload ∨ ∃ fault, e = badLifetime (payload.get "expires_in") fault := by
  rw [ofMembers] at h
  split at h
  · cases h
    exact .inl rfl
  · rcases bind_eq_error_iff.mp h with hlifetime | ⟨seconds, -, h⟩
    · unfold lifetime? at hlifetime
      split at hlifetime
      · cases hlifetime
      · split at hlifetime
        · cases hlifetime
        · cases hlifetime
        · next fault _ _ =>
          cases hlifetime
          exact .inr ⟨fault, rfl⟩
    · rcases bind_eq_error_iff.mp h with hexpiry | ⟨expiry, -, h⟩
      · unfold expiryAfter at hexpiry
        split at hexpiry
        · cases hexpiry
        · split at hexpiry
          · split at hexpiry <;> cases hexpiry
          · cases hexpiry
      · cases h

end TokenBundle

/-! ## Answers -/

/-- An answer without a fault: its status is good, and its body an object without an error. -/
structure Response.Holds (r : Response) (payload : Members) : Prop where
  status : r.status = 200
  body : Json.ofBytes r.body = .ok (.obj payload)
  noError : payload.get? "error" = none

/-- An answer that is in order: one without a fault that names an access token. -/
structure Response.Grants (r : Response) (payload : Members) : Prop extends r.Holds payload where
  access : TokenBundle.NamesAccess payload

theorem Response.Holds.payload_eq {r : Response} {ms ns : Members} (h : r.Holds ms)
    (h' : r.Holds ns) : ms = ns := by
  have heq := h.body.symm.trans h'.body
  cases heq
  rfl

namespace TokenEndpoint

variable {r : Response} {receivedAt : Moment} {bundle : TokenBundle}

/-- Nobody answers for the fault. -/
def Fault.IsDefect (fault : Fault) : Prop :=
  fault.toFailure.IsDefect

/-- The fault is refused as one of an exchange. -/
def Fault.IsRefused (fault : Fault) : Prop :=
  ∃ e, fault.toFailure = .refused e ∧ e.kind = .tokenExchange

theorem Fault.IsRefused.not_isDefect {fault : Fault} (h : fault.IsRefused) : ¬fault.IsDefect := by
  obtain ⟨e, he, -⟩ := h
  rintro ⟨d, hd⟩
  cases he.symm.trans hd

theorem read_of_holds {ms : Members} (h : r.Holds ms) :
    read r receivedAt = (TokenBundle.ofMembers ms receivedAt).mapError .badBundle := by
  have hgood : ¬(r.status ≠ 200 ∨ ms.has "error" = true) := by
    rw [not_or, Decidable.not_not, Bool.not_eq_true, Members.has_eq_false_iff]
    exact ⟨h.status, h.noError⟩
  rw [read, payload, h.body]
  refine (if_neg hgood).trans ?_
  cases TokenBundle.ofMembers ms receivedAt <;> rfl

/-- **How an answer is read.** One without a fault is left to its payload, one that is nested too
deeply to nobody, and any other is refused. -/
theorem read_cases (r : Response) (receivedAt : Moment) :
    (∃ ms, r.Holds ms ∧
        read r receivedAt = (TokenBundle.ofMembers ms receivedAt).mapError .badBundle) ∨
      (Json.ofBytes r.body = .error .tooDeep ∧ read r receivedAt = .error .tooDeep) ∨
      (∀ ms, ¬r.Holds ms) ∧ Json.ofBytes r.body ≠ .error .tooDeep ∧
        FailsWith Fault.IsRefused (read r receivedAt) := by
  have hbad (ms : Members) (hpayload : payload r = .ok ms)
      (h : r.status ≠ 200 ∨ ms.has "error" = true) :
      FailsWith Fault.IsRefused (read r receivedAt) := by
    rw [read, hpayload]
    exact ⟨_, if_pos h, _, rfl, rfl⟩
  rcases hdocument : Json.ofBytes r.body with fault | v
  · have hnone (ms : Members) : ¬r.Holds ms := fun h ↦ by cases hdocument.symm.trans h.body
    cases fault with
    | tooDeep =>
      refine .inr (.inl ⟨rfl, ?_⟩)
      rw [read, payload, hdocument]
      rfl
    | _ =>
      refine .inr (.inr ⟨hnone, nofun, ?_⟩)
      by_cases hstatus : r.status = 200
      · rw [read, payload, hdocument]
        simp only [if_pos hstatus]
        exact ⟨_, rfl, _, rfl, rfl⟩
      · refine hbad [] ?_ (.inl hstatus)
        rw [payload, hdocument]
        exact if_neg hstatus
  · cases v with
    | obj ms =>
      have hpayload : payload r = .ok ms := by rw [payload, hdocument]
      by_cases hbroken : r.status ≠ 200 ∨ Members.has ms "error" = true
      · refine .inr (.inr ⟨fun ns h ↦ ?_, nofun, hbad ms hpayload hbroken⟩)
        cases hdocument.symm.trans h.body
        exact hbroken.elim (· h.status) fun herror ↦ by
          rw [(Members.has_eq_false_iff _ _).mpr h.noError] at herror
          cases herror
      · obtain ⟨hstatus, hnone⟩ := not_or.mp hbroken
        rw [Decidable.not_not] at hstatus
        rw [Bool.not_eq_true, Members.has_eq_false_iff] at hnone
        have hholds : r.Holds ms := ⟨hstatus, hdocument, hnone⟩
        exact .inl ⟨ms, hholds, read_of_holds hholds⟩
    | _ =>
      have hnone (ms : Members) : ¬r.Holds ms := fun h ↦ by cases hdocument.symm.trans h.body
      refine .inr (.inr ⟨hnone, nofun, ?_⟩)
      rw [read, payload, hdocument]
      exact ⟨_, rfl, _, rfl, rfl⟩

theorem read_eq_ok_iff :
    read r receivedAt = .ok bundle ↔ ∃ ms, r.Grants ms ∧ bundle.IsReadFrom ms receivedAt := by
  rcases read_cases r receivedAt with
    ⟨ms, hholds, hread⟩ | ⟨hdeep, hread⟩ | ⟨hnone, -, fault, hread, -⟩
  · rw [hread, mapError_eq_ok_iff, TokenBundle.ofMembers_eq_ok_iff]
    constructor
    · intro h
      exact ⟨ms, { hholds with access := ⟨_, h.accessToken_ne, h.accessToken⟩ }, h⟩
    · rintro ⟨ns, hgrants, h⟩
      cases hholds.payload_eq hgrants.toHolds
      exact h
  · rw [hread]
    refine iff_of_false (fun h ↦ nomatch h) ?_
    rintro ⟨ms, hgrants, -⟩
    cases hdeep.symm.trans hgrants.body
  · rw [hread]
    exact iff_of_false (fun h ↦ nomatch h) fun ⟨ms, hgrants, _⟩ ↦ hnone ms hgrants.toHolds

/-- A bundle holds the payload that it was read from. -/
theorem ofMembers_of_read_eq_ok (h : read r receivedAt = .ok bundle) :
    TokenBundle.ofMembers bundle.extra receivedAt = .ok bundle := by
  obtain ⟨ms, -, hread⟩ := read_eq_ok_iff.mp h
  rw [TokenBundle.ofMembers_eq_ok_iff, hread.extra]
  exact hread

/-- A bundle is read in an answer that is in order, if the lifetime it declares lasts. -/
theorem exists_read_iff :
    (∃ bundle, read r receivedAt = .ok bundle) ↔
      ∃ ms, r.Grants ms ∧ TokenBundle.Lasts receivedAt (ms.get "expires_in") := by
  simp only [read_eq_ok_iff]
  constructor
  · rintro ⟨bundle, ms, hgrants, hread⟩
    exact ⟨ms, hgrants, hread.lasts⟩
  · rintro ⟨ms, hgrants, hlasts⟩
    obtain ⟨seconds, expiry, hexpiry⟩ := TokenBundle.lasts_iff.mp hlasts
    obtain ⟨token, hne, htoken⟩ := hgrants.access
    exact ⟨⟨token, _, _, expiry, ms⟩, ms, hgrants, rfl, htoken, hne, rfl, rfl, seconds, hexpiry⟩

/-- Nobody answers for the answer: it is nested too deeply, or in order but for its lifetime. -/
inductive BreaksDown (r : Response) (receivedAt : Moment) : Prop
  | tooDeep (h : Json.ofBytes r.body = .error .tooDeep)
  | overruns {payload : Members} (hgrants : r.Grants payload)
      (h : TokenBundle.Overruns receivedAt (payload.get "expires_in"))

theorem read_failsWith_iff :
    FailsWith Fault.IsDefect (read r receivedAt) ↔ BreaksDown r receivedAt := by
  rcases read_cases r receivedAt with
    ⟨ms, hholds, hread⟩ | ⟨hdeep, hread⟩ | ⟨hnone, hshallow, fault, hread, hrefused⟩
  · have hpayload : FailsWith Fault.IsDefect (read r receivedAt) ↔
        FailsWith Failure.IsDefect (TokenBundle.ofMembers ms receivedAt) := by
      rw [hread]
      cases TokenBundle.ofMembers ms receivedAt with
      | ok bundle => exact iff_of_false (not_failsWith_ok _) (not_failsWith_ok _)
      | error failure => simp [Fault.IsDefect, Fault.toFailure]
    rw [hpayload, TokenBundle.ofMembers_failsWith_iff]
    constructor
    · rintro ⟨haccess, hoverruns⟩
      exact .overruns { hholds with access := haccess } hoverruns
    · rintro (hdeep | ⟨hgrants, hoverruns⟩)
      · cases hdeep.symm.trans hholds.body
      · cases hholds.payload_eq hgrants.toHolds
        exact ⟨hgrants.access, hoverruns⟩
  · rw [hread, failsWith_error_iff]
    exact iff_of_true ⟨_, rfl⟩ (.tooDeep hdeep)
  · rw [hread, failsWith_error_iff]
    refine iff_of_false hrefused.not_isDefect ?_
    rintro (hdeep | ⟨hgrants, -⟩)
    · exact hshallow hdeep
    · exact hnone _ hgrants.toHolds

/-- What is no defect is a refusal, and of one kind. -/
theorem isRefused_of_read {fault : Fault} (h : read r receivedAt = .error fault)
    (hdefect : ¬fault.IsDefect) : fault.IsRefused := by
  rcases read_cases r receivedAt with
    ⟨ms, -, hread⟩ | ⟨-, hread⟩ | ⟨-, -, _, hread, hrefused⟩
  · rw [hread] at h
    cases hbundle : TokenBundle.ofMembers ms receivedAt with
    | ok bundle => rw [hbundle] at h; cases h
    | error failure =>
      rw [hbundle] at h
      cases h
      cases failure with
      | defect d => exact absurd ⟨d, rfl⟩ hdefect
      | refused e =>
        refine ⟨e, rfl, ?_⟩
        rcases TokenBundle.refused_of_ofMembers hbundle with rfl | ⟨_, rfl⟩ <;> rfl
  · cases hread.symm.trans h
    exact absurd ⟨_, rfl⟩ hdefect
  · cases hread.symm.trans h
    exact hrefused

end TokenEndpoint

end SessionGate
