import SessionGate.Proofs.GroupNames

/-!
# The groups that are let in

What stands in the settings about groups decides whom the provider lets in. A list in JSON is read
name by name, apart from commas inside the names: `Settings.groups_of_list`. A name that holds a
comma lets in whoever is in a group that is called like a part of it.
-/

namespace SessionGate.Settings

open Text

variable {ms : Members} {serviceName port : Json} {text : Text}

/-- A reading gives groups: it does not fail on their account, and it has them if it succeeds. -/
structure GivesGroups (reading : Checked Settings) (groups : List Text) : Prop where
  not_at_fault : ∀ f ∈ reading.faults, f.path.head? ≠ some (.member groupsField)
  allowedGroups_eq : ∀ s, reading = .valid s → s.allowedGroups = groups

/-- The groups are those of the text that is made of the setting. -/
theorem givesGroups_of_normalized {kept : Text} (h : ms.get? groupsField = some (.str text))
    (hkept : normalizeGroups text = .valid kept) :
    GivesGroups (ofMembers ms serviceName port) (namesIn kept) where
  not_at_fault := by
    intro f hf hpath
    have hfault := (groups_at_fault_iff h).mp ⟨f, hf, hpath⟩
    rw [hkept] at hfault
    exact hfault rfl
  allowedGroups_eq := by
    intro s hs
    have hgroups := groups_of_ofMembers hs
    have hread : Checked.optional ms groupsField (.plain "") groups = .valid kept := by
      rw [Checked.optional, h]
      exact congrArg (Checked.under _) hkept
    have hnames : kept = s.groupNames := Checked.valid.inj (hread.symm.trans hgroups)
    rw [Settings.allowedGroups_eq, ← hnames]

/-! ## Whom a provider lets in -/

theorem groups_policy (s : Settings) : s.providerData.policy.groups = s.allowedGroups := by
  have hfilled : ∀ g ∈ s.allowedGroups, g ≠ .plain "" := fun g hg ↦
    of_decide_eq_true (List.mem_filter.mp hg).2
  exact List.filter_eq_self.mpr fun g hg ↦ decide_eq_true (hfilled g hg)

theorem restricts_policy_iff (s : Settings) :
    s.providerData.policy.restricts = true ↔ s.allowedGroups ≠ [] := by
  rw [GroupPolicy.restricts, groups_policy, Bool.not_eq_true', List.isEmpty_eq_false_iff]

theorem matchesClaims_policy_iff (s : Settings) (claims : Members) :
    s.providerData.policy.matchesClaims claims = true ↔
      ∃ role ∈ RoleSource.realm.roles claims, role ∈ s.allowedGroups := by
  rw [GroupPolicy.matchesClaims, groups_policy, List.any_eq_true]
  exact exists_congr fun role ↦ and_congr_right fun _ ↦ List.contains_iff_mem

/-! ## The two forms -/

theorem isBlank_eq_false_of_trimBy {α : Type} {isBlank : α → Bool} {x : α} {xs : List α}
    (h : trimBy isBlank (x :: xs) = x :: xs) : isBlank x = false := by
  rw [Bool.eq_false_iff]
  intro hblank
  have hlength : (trimBy isBlank (x :: xs)).length ≤ xs.length := by
    rw [trimBy, List.dropWhile_cons, if_pos hblank, List.length_reverse]
    have houter := (@List.dropWhile_sublist _ (xs.dropWhile isBlank).reverse isBlank).length_le
    have hinner := (@List.dropWhile_sublist _ xs isBlank).length_le
    rw [List.length_reverse] at houter
    omega
  rw [h, List.length_cons] at hlength
  omega

/-- Names with commas between them begin as the first of them does. -/
theorem head?_trimPoints_joined {first : Text} {p : CodePoint} {ps : List CodePoint}
    (rest : List Text) (hfirst : first.points = p :: ps) (htrim : trim first = first) :
    (trimPoints (joined (first :: rest)).points).head? = some p := by
  have hpoints : trimPoints (p :: ps) = p :: ps := by
    rw [← hfirst, ← points_ofPoints (trimPoints first.points)]
    exact congrArg points htrim
  have hspace := isBlank_eq_false_of_trimBy hpoints
  obtain ⟨after, hafter⟩ : ∃ after, (joined (first :: rest)).points = p :: after := by
    rw [joined, points_ofPoints, List.map_cons, hfirst]
    cases rest with
    | nil => exact ⟨ps, by simp⟩
    | cons next rest => exact ⟨_, by rw [List.map_cons, List.intercalate_cons_cons]; rfl⟩
  have hdrop : (joined (first :: rest)).points.dropWhile isSpacePoint = p :: after := by
    rw [hafter, List.dropWhile_cons, hspace]
    rfl
  exact head?_trimBy hspace hdrop

/-- Plain names are given with commas between them just as they are. -/
theorem normalizeGroups_joined {first : Text} {rest : List Text} (hfilled : first ≠ .plain "")
    (htrim : trim first = first) (hbracket : first.points.head? ≠ some (.char '[')) :
    normalizeGroups (joined (first :: rest)) = .valid (joined (first :: rest)) := by
  refine normalizeGroups_of_plain ?_
  cases hfirst : first.points with
  | nil => exact absurd (points_injective hfirst) hfilled
  | cons p ps =>
    rw [head?_trimPoints_joined rest hfirst htrim]
    rw [hfirst] at hbracket
    exact hbracket

/-- **A list of groups is read name by name, and each name comes apart at its commas.** A text that
begins with a bracket is a list in JSON or refused. The groups of a list, whatever blanks of JSON
stand around it, are those of its names, which are its names without blanks exactly if none of them
holds a comma. The provider restricts if there are any, to those who have one of them as a role.
Plain names give the same groups when they are given with commas between them. -/
theorem groups_of_list {environment : List (String × String)} {file : Option String}
    (serviceName port : Json)
    (htext : (given environment file).get? groupsField = some (.str text))
    (hbracket : (trimPoints text.points).head? = some (.char '[')) :
    (∀ names : List Text, Json.ofText text.points = .ok (.arr (names.map .str)) →
      GivesGroups (read environment file serviceName port) (names.flatMap namesIn) ∧
      (names.flatMap namesIn = (names.map trim).filter (· ≠ .plain "") ↔
        ∀ n ∈ names, .char ',' ∉ n.points) ∧
      (∀ s, read environment file serviceName port = .valid s →
        (s.providerData.policy.restricts = true ↔ s.allowedGroups ≠ []) ∧
        ∀ claims, s.providerData.policy.matchesClaims claims = true ↔
          ∃ role ∈ RoleSource.realm.roles claims, role ∈ s.allowedGroups) ∧
      ((∀ n ∈ names, trim n = n ∧ n ≠ .plain "" ∧ .char ',' ∉ n.points) →
        ∀ first ∈ names.head?, first.points.head? ≠ some (.char '[') →
        ∀ environment' file',
          (given environment' file').get? groupsField = some (.str (joined names)) →
          GivesGroups (read environment file serviceName port) names ∧
          GivesGroups (read environment' file' serviceName port) names)) ∧
    ((∀ v, Json.ofText text.points ≠ .ok v) →
      ∃ f ∈ (read environment file serviceName port).faults,
        f.path.head? = some (.member groupsField)) := by
  constructor
  · intro names hlist
    have hnormal := normalizeGroups_of_list hlist
    have hgives : GivesGroups (read environment file serviceName port) (namesIn (joined names)) :=
      givesGroups_of_normalized htext hnormal
    rw [namesIn_joined] at hgives
    refine ⟨hgives, flatMap_namesIn_eq_iff names, ?_, ?_⟩
    · intro s _
      exact ⟨restricts_policy_iff s, matchesClaims_policy_iff s⟩
    · intro hplain first hfirst hbegins environment' file' hgiven
      obtain ⟨rest, rfl⟩ := List.head?_eq_some_iff.mp hfirst
      obtain ⟨htrim, hfilled, -⟩ := hplain first List.mem_cons_self
      have hgives' : GivesGroups (read environment' file' serviceName port)
          (namesIn (joined (first :: rest))) :=
        givesGroups_of_normalized hgiven (normalizeGroups_joined hfilled htrim hbegins)
      rw [namesIn_joined_of_plain hplain] at hgives'
      rw [← namesIn_joined, namesIn_joined_of_plain hplain] at hgives
      exact ⟨hgives, hgives'⟩
  · intro hno
    obtain ⟨kind, hrefused⟩ := normalizeGroups_of_unreadable hbracket hno
    rw [read_eq]
    refine (groups_at_fault_iff htext).mpr ?_
    rw [hrefused]
    exact List.cons_ne_nil _ _

def groupsVariable : String := "ACCESS_OIDC_ALLOWED_GROUPS"

/-- The groups of a plain list. -/
theorem groups_of_list_plain :
    GivesGroups (read [(groupsVariable, "[\"eng\", \" ops \"]")] none (.str "auth") (.int 8010))
      [.plain "eng", .plain "ops"] := by
  have hname : lower groupsVariable = namePrefix ++ groupsField := by decide +kernel
  have htext : (given [(groupsVariable, "[\"eng\", \" ops \"]")] none).get? groupsField =
      some (.str "[\"eng\", \" ops \"]") :=
    @get?_given_of_last [] [] none _ _ _ hname fun p hp ↦ (nomatch hp)
  have hlist : Json.ofText (points "[\"eng\", \" ops \"]") =
      .ok (.arr ([.plain "eng", .plain " ops "].map .str)) :=
    toOption_eq_some_iff.mp (by decide +kernel)
  have hbracket : (trimPoints (points "[\"eng\", \" ops \"]")).head? = some (.char '[') := by
    decide +kernel
  exact ((groups_of_list (.str "auth") (.int 8010) htext hbracket).1 _ hlist).1

/-- A name with a comma lets the members of two other groups in. -/
theorem groups_of_list_comma :
    ∃ s, read [(groupsVariable, "[\"a,b\"]")] none (.str "auth") (.int 8010) = .valid s ∧
      s.allowedGroups = [.plain "a", .plain "b"] ∧
      s.allowedGroups ≠ ([.plain "a,b"].map trim).filter (· ≠ .plain "") := by
  have hgroups : (read [(groupsVariable, "[\"a,b\"]")] none (.str "auth")
      (.int 8010)).toExcept.toOption.map Settings.allowedGroups =
      some [.plain "a", .plain "b"] := by
    decide +kernel
  cases hread : read [(groupsVariable, "[\"a,b\"]")] none (.str "auth") (.int 8010) with
  | invalid faults =>
    rw [hread] at hgroups
    cases hgroups
  | valid s =>
    rw [hread] at hgroups
    have hs : s.allowedGroups = [.plain "a", .plain "b"] := Option.some.inj hgroups
    refine ⟨s, rfl, hs, ?_⟩
    rw [hs]
    decide +kernel

end SessionGate.Settings
