import SessionGate.Proofs.Provenance
import SessionGate.Proofs.SessionRecords

/-!
# The sessions that a provider makes are plain

A session that is made of a bundle has texts for its tokens, since an access token and an identity
token that are none are refused, and a text for its email, which a signed claim has to be. Its
expiry is counted from the moment the bundle came, on the clock it came by. So it is a moment that a
field can hold if the clock shows universal time, which is what the clock of the service does:
`World.IsUniversal`.

A refresh puts such a session in place of one that was plain before. The refresh token is another
matter: it is taken from the bundle whatever it is.
-/

namespace SessionGate

/-! ## Clocks -/

/-- The clock shows universal time, and will whenever it is set. -/
structure World.IsUniversal (w : World) : Prop where
  now : w.now.offset = some 0
  deliveries : ∀ d ∈ w.deliveries, ∀ m ∈ d.advanceTo, m.offset = some 0

namespace World.IsUniversal

variable {w : World}

theorem send (h : w.IsUniversal) (r : Request) : (w.send r).2.now.offset = some 0 := by
  rw [World.send]
  cases hd : w.deliveries with
  | nil => exact h.now
  | cons d rest =>
    simp only [pass]
    rcases w.sessions.commitAll d.commits with ⟨_ | _, sessions⟩
    · exact h.now
    · cases hadvance : d.advanceTo with
      | none =>
        exact h.now
      | some m =>
        exact h.deliveries d (by rw [hd]; exact List.mem_cons_self) m hadvance

theorem exchange (h : w.IsUniversal) (e : TokenEndpoint) (grant : Grant) :
    ((e.exchange grant).perform w).2.now.offset = some 0 := by
  have hsend : ((Action.send (e.request grant)).perform w).2.now.offset = some 0 := by
    rw [Action.perform_send]
    cases (e.request grant).destination with
    | error defect => exact h.now
    | ok url =>
      by_cases hclosed : w.isClosed = true
      · simp only [if_pos hclosed]
        exact h.now
      · simp only [if_neg hclosed]
        exact h.send _
  rw [TokenEndpoint.perform_exchange]
  generalize (Action.send (e.request grant)).perform w = performed at hsend ⊢
  rcases performed with ⟨failure | reply, after⟩
  · exact hsend
  · exact hsend

end World.IsUniversal

/-! ## Bundles -/

/-- What expires was received on the same clock. -/
theorem TokenBundle.offset_of_expiry {payload : Members} {receivedAt : Moment}
    {bundle : TokenBundle} (h : ofMembers payload receivedAt = .ok bundle) :
    ∀ m ∈ bundle.expiry, m.offset = receivedAt.offset := by
  intro m hm
  obtain ⟨seconds, -, hexpires⟩ := (ofMembers_eq_ok_iff.mp h).expiry
  rw [hm] at hexpires
  cases hexpires with
  | later _ hafter => exact hafter.offset

/-! ## Projections -/

namespace Session

/-- The refresh token and the version may be replaced. -/
theorem IsPlain.carryOver {fresh : Session} (h : fresh.IsPlain) (s : Session) :
    (s.carryOver fresh).IsPlain := by
  obtain ⟨haccess, hid, hemail⟩ := carryOver_kept s fresh
  refine ⟨?_, ?_, ?_, ?_⟩
  · rw [haccess]
    exact h.accessToken
  · rw [hid]
    exact h.idToken
  · rw [hemail]
    exact h.email
  · rw [carryOver_expiresOn]
    exact h.expiresOn

theorem IsPlain.replaced {fresh : Session} (h : fresh.IsPlain) (s : Session) :
    (s.replaced fresh).IsPlain :=
  ⟨h.accessToken, h.idToken, h.email, h.expiresOn⟩

end Session

namespace Provider

variable {p : Provider} {w : World}

theorem isPlain_of_project {now receivedAt : Moment} {bundle : TokenBundle} {fresh : Session}
    (hclock : receivedAt.offset = some 0)
    (hbundle : TokenBundle.ofMembers bundle.extra receivedAt = .ok bundle)
    (h : p.project now.seconds bundle = .ok fresh) : fresh.IsPlain := by
  obtain ⟨idToken, claims, hid, hcheck, -, haccess, hidToken, -, hexpires, hemail, -⟩ :=
    project_eq_ok h
  obtain ⟨email, hget, -⟩ := email_of_project h hid hcheck
  refine ⟨⟨_, haccess⟩, ⟨_, hidToken⟩, ⟨email, hemail.trans hget⟩, ?_⟩
  rw [hexpires, expiryOf]
  cases hexpiry : bundle.expiry with
  | none => exact .inl rfl
  | some m =>
    have hoffset : m.offset = some 0 :=
      (TokenBundle.offset_of_expiry hbundle m hexpiry).trans hclock
    refine .inr ⟨m, rfl, ?_, Moment.isWhole_of_universal hoffset⟩
    rw [Moment.isAware, hoffset]
    rfl

/-- **A grant is traded for a plain session.** -/
theorem isPlain_of_trade {grant : Grant} {f : AccessError → AccessError} {fresh : Session}
    (hclock : w.IsUniversal) (h : ((p.trade grant f).perform w).1 = .ok fresh) :
    fresh.IsPlain := by
  obtain ⟨bundle, after, hexchange, hproject⟩ := project_of_trade h
  have hnow := hclock.exchange p.data.tokenEndpoint grant
  rw [hexchange] at hnow
  exact isPlain_of_project hnow (TokenEndpoint.ofMembers_of_exchange _ _ hexchange) hproject

/-- **A refresh leaves a plain session plain.** -/
theorem isPlain_of_refreshIfNeeded {name : String} {s : Session} {after : World} {done : Bool}
    (hclock : w.IsUniversal) (hs : w.sessions.get? name = some s) (hplain : s.IsPlain)
    (h : (p.refreshIfNeeded (some name)).perform w = (.ok done, after)) :
    ∃ t, after.sessions.get? name = some t ∧ t.IsPlain := by
  rcases steps_of_refreshIfNeeded hs h with
    ⟨-, rfl⟩ | ⟨_, _, r, fresh, renewed, -, -, -, hrenewed, hfinish, -, hget⟩
  · exact ⟨s, hs, hplain⟩
  · obtain ⟨bundle, hreceive, hrenew⟩ := bind_eq_ok_iff.mp hrenewed
    obtain ⟨response, -, hread⟩ := receive_eq_ok hreceive
    have hfresh : fresh.IsPlain := isPlain_of_project (hclock.send r)
      (TokenEndpoint.ofMembers_of_read_eq_ok hread) (renew_eq_ok_iff.mp hrenew)
    obtain ⟨-, rfl⟩ := PendingRefresh.finish_eq_ok_iff.mp hfinish
    exact ⟨_, hget, (hfresh.carryOver _).replaced _⟩

end Provider

end SessionGate
