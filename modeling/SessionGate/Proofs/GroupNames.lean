import SessionGate.Proofs.CheckedFields
import SessionGate.Proofs.ClaimChecks
import SessionGate.Proofs.CodePoints
import SessionGate.Proofs.RolePaths
import SessionGate.Proofs.SettingSources
import SessionGate.Proofs.Steps
import SessionGate.Proofs.TextParts

/-!
# Which groups the settings allow

The allowed groups are given as a JSON list or with commas between them. `Settings.normalizeGroups`
turns the first form into the second, and `Settings.allowedGroups` takes that apart again.

## What is lost on the way

A list is joined with commas and split at commas, so each name comes apart at the commas that it
holds: `Settings.namesIn` is what becomes of one name, and the groups of a list are those of its
names, one after the other. Nothing is lost exactly if no name holds a comma. This is so because no
blank is a comma: a name that holds one still does so without the blanks around it, and no allowed
group does.

## What is refused

`Checked.faults` collects what is wrong with a record, and every fault names the field that it is
in. So a reading that fails can be told to have failed on account of the groups or not, and
`Settings.groups_at_fault_iff` says when that is.
-/

namespace SessionGate

open Text

namespace Text

/-! ## Blanks around a text -/

section TrimBy

variable {α : Type} {isBlank : α → Bool} {x : α} {xs rest : List α}

theorem mem_dropWhile (hx : isBlank x = false) (h : x ∈ xs) : x ∈ xs.dropWhile isBlank := by
  rw [← @List.takeWhile_append_dropWhile _ isBlank xs, List.mem_append] at h
  refine h.resolve_left fun htaken ↦ ?_
  have hblank := List.all_eq_true.mp (@List.all_takeWhile _ isBlank xs) x htaken
  rw [hx] at hblank
  cases hblank

/-- What is no blank is kept. -/
theorem mem_trimBy (hx : isBlank x = false) : x ∈ trimBy isBlank xs ↔ x ∈ xs := by
  constructor
  · intro h
    have hkept := (List.dropWhile_sublist isBlank).mem (List.mem_reverse.mp h)
    exact (List.dropWhile_sublist isBlank).mem (List.mem_reverse.mp hkept)
  · intro h
    have hfront := List.mem_reverse.mpr (mem_dropWhile hx h)
    exact List.mem_reverse.mpr (mem_dropWhile hx hfront)

/-- A list that begins with something else after its blanks begins with that. -/
theorem head?_trimBy (hx : isBlank x = false) (h : xs.dropWhile isBlank = x :: rest) :
    (trimBy isBlank xs).head? = some x := by
  rw [trimBy, h, List.reverse_cons, List.dropWhile_append]
  have hlast : [x].dropWhile isBlank = [x] := by rw [List.dropWhile_cons, hx]; rfl
  split
  · rw [hlast]
    rfl
  · rw [List.reverse_append]
    rfl

end TrimBy

theorem isSpace_of_isBlank {c : Char} (h : Json.isBlank c = true) : isSpace c = true := by
  simp only [Json.isBlank, Bool.or_eq_true, beq_iff_eq] at h
  rcases h with ((rfl | rfl) | rfl) | rfl <;> decide

theorem isSpacePoint_of_isBlank {p : CodePoint} (h : p.char?.any Json.isBlank = true) :
    isSpacePoint p = true := by
  cases p with
  | char c => exact isSpace_of_isBlank h
  | lone s => cases h

-- The reader of JSON skips its own blanks, and the test for a bracket drops all of them.
/-- The blanks of JSON are among the others. -/
theorem dropWhile_isSpacePoint_skipBlanks (ps : List CodePoint) :
    (Json.skipBlanks ps).dropWhile isSpacePoint = ps.dropWhile isSpacePoint := by
  induction ps with
  | nil => rfl
  | cons p ps ih =>
    rw [Json.skipBlanks, List.dropWhile_cons]
    by_cases h : p.char?.any Json.isBlank = true
    · rw [if_pos h, ← Json.skipBlanks, ih, List.dropWhile_cons, if_pos (isSpacePoint_of_isBlank h)]
    · rw [if_neg h]

end Text

/-! ## Lists in JSON -/

namespace Json

theorem number_ne_arr {cs after : List Char} {items : List Json} :
    number cs ≠ .ok (.arr items, after) := by
  have hunsigned (negative : Bool) (cs : List Char) :
      unsignedNumber negative cs ≠ .ok (.arr items, after) := by
    rw [unsignedNumber]
    cases wholePart? cs with
    | none => exact fun h ↦ (nomatch h)
    | some parts =>
      simp only
      split
      · split <;> exact fun h ↦ (nomatch h)
      · exact fun h ↦ (nomatch h)
  unfold number
  split <;> exact hunsigned _ _

theorem word?_ne_arr {cs after : List Char} {items : List Json} :
    word? cs ≠ some (.arr items, after) := by
  intro h
  obtain ⟨⟨word, v⟩, hword, hmap⟩ := List.exists_of_findSome?_eq_some h
  obtain ⟨rest, -, hpair⟩ := Option.map_eq_some_iff.mp hmap
  cases hpair
  simp [wordValues] at hword

theorem scalar_ne_arr {ps after : List CodePoint} {items : List Json} :
    scalar ps ≠ .ok (.arr items, after) := by
  intro h
  rw [scalar] at h
  simp only at h
  split at h
  · next v rest hread =>
    cases h
    cases hword : word? (CodePoint.spanChars ps).1 with
    | some found =>
      rw [hword, Option.elim_some] at hread
      cases hread
      exact word?_ne_arr hword
    | none =>
      rw [hword, Option.elim_none] at hread
      exact number_ne_arr hread
  · cases h

/-- Only what begins with a bracket is a list. -/
theorem head?_of_value_arr {fuel room : Nat} {ps after : List CodePoint} {items : List Json}
    (h : value fuel room ps = .ok (.arr items, after)) : ps.head? = some (.char '[') := by
  cases fuel with
  | zero => cases h
  | succ fuel =>
    unfold value at h
    split at h
    · cases h
    · obtain ⟨s, -, h⟩ := bind_eq_ok_iff.mp h
      cases h
    · cases h
    · rfl
    · cases h
    · split at h
      · cases h
      · obtain ⟨ms, -, h⟩ := bind_eq_ok_iff.mp h
        cases h
    · exact absurd h scalar_ne_arr

/-- So does a text with a list in it, apart from blanks. -/
theorem head?_of_ofText_arr {ps : List CodePoint} {items : List Json}
    (h : ofText ps = .ok (.arr items)) : (trimPoints ps).head? = some (.char '[') := by
  have hdocument : document ps = .ok (.arr items) := by
    have hpoints := mapError_eq_ok_iff.mp h
    unfold ofPoints at hpoints
    split at hpoints
    · cases hpoints
    · exact hpoints
  obtain ⟨⟨v, after⟩, hvalue, hrest⟩ := bind_eq_ok_iff.mp hdocument
  have hv : v = .arr items := by
    simp only at hrest
    split at hrest
    · exact Except.ok.inj hrest
    · cases hrest
  rw [hv] at hvalue
  obtain ⟨rest, hbegins⟩ := List.head?_eq_some_iff.mp (head?_of_value_arr hvalue)
  have hbracket : isSpacePoint (.char '[') = false := by decide
  have hdrop : ps.dropWhile isSpacePoint = .char '[' :: rest := by
    rw [← dropWhile_isSpacePoint_skipBlanks, hbegins, List.dropWhile_cons, hbracket]
    rfl
  exact head?_trimBy hbracket hdrop

end Json

namespace Settings

/-! ## Names and groups -/

def groupsField : String := "oidc_allowed_groups"

/-- The names of a list with commas between them. -/
def joined (names : List Text) : Text :=
  .ofPoints ([.char ','].intercalate (names.map points))

/-- The groups that become of one name. -/
def namesIn (name : Text) : List Text :=
  ((splitOn (.char ',') name.points).map fun part ↦ .ofPoints (trimPoints part)).filter (· ≠ "")

theorem allowedGroups_eq (s : Settings) : s.allowedGroups = namesIn s.groupNames := rfl

theorem namesIn_joined (names : List Text) : namesIn (joined names) = names.flatMap namesIn := by
  cases names with
  | nil => rfl
  | cons name names =>
    have hne : (name :: names).map points ≠ [] := List.cons_ne_nil _ _
    rw [namesIn, joined, points_ofPoints, splitOn_intercalate hne, List.flatMap_map,
      List.map_flatMap, List.filter_flatMap]
    rfl

theorem namesIn_of_not_mem {name : Text} (h : .char ',' ∉ name.points) :
    namesIn name = [trim name].filter (· ≠ .plain "") := by
  rw [namesIn, splitOn_of_not_mem h]
  rfl

theorem isSpacePoint_comma : isSpacePoint (.char ',') = false := by
  decide

theorem comma_not_mem {name group : Text} (h : group ∈ namesIn name) :
    .char ',' ∉ group.points := by
  obtain ⟨part, hpart, rfl⟩ := List.mem_map.mp (List.mem_filter.mp h).1
  rw [points_ofPoints, trimPoints, mem_trimBy isSpacePoint_comma]
  exact not_mem_of_mem_splitOn hpart

/-- Names are kept one by one exactly if none of them holds a comma. -/
theorem flatMap_namesIn_eq_iff (names : List Text) :
    names.flatMap namesIn = (names.map trim).filter (· ≠ .plain "") ↔
      ∀ n ∈ names, .char ',' ∉ n.points := by
  constructor
  · -- a name with a comma is kept on the right, and no group on the left has one
    intro h n hn hcomma
    have htrimmed : .char ',' ∈ (trim n).points := by
      rw [trim, points_ofPoints]
      exact (mem_trimBy isSpacePoint_comma).mpr hcomma
    have hne : trim n ≠ "" := by
      intro hempty
      rw [hempty] at htrimmed
      cases htrimmed
    have hkept : trim n ∈ (names.map trim).filter (· ≠ .plain "") :=
      List.mem_filter.mpr ⟨List.mem_map_of_mem hn, decide_eq_true hne⟩
    rw [← h] at hkept
    obtain ⟨m, -, hm⟩ := List.mem_flatMap.mp hkept
    exact comma_not_mem hm htrimmed
  · intro h
    induction names with
    | nil => rfl
    | cons n names ih =>
      rw [List.flatMap_cons, namesIn_of_not_mem (h n List.mem_cons_self),
        ih fun m hm ↦ h m (List.mem_cons_of_mem _ hm), List.map_cons, ← List.filter_append]
      rfl

/-! ## The two forms -/

theorem normalizeGroups_of_list {text : Text} {names : List Text}
    (h : Json.ofText text.points = .ok (.arr (names.map .str))) :
    normalizeGroups text = .valid (joined names) := by
  have hnames : (names.map Json.str).mapM Json.str? = some names :=
    (Expectations.mapM_str?_eq_some_iff _ _).mpr rfl
  rw [normalizeGroups, if_pos (Json.head?_of_ofText_arr h), h]
  simp only [joinGroups, hnames]
  rfl

theorem normalizeGroups_of_plain {text : Text}
    (h : (trimPoints text.points).head? ≠ some (.char '[')) :
    normalizeGroups text = .valid text := by
  rw [normalizeGroups, if_neg h]

theorem normalizeGroups_of_unreadable {text : Text}
    (h : (trimPoints text.points).head? = some (.char '['))
    (hno : ∀ v, Json.ofText text.points ≠ .ok v) :
    ∃ kind, normalizeGroups text = Checked.fault kind := by
  rw [normalizeGroups, if_pos h]
  cases htext : Json.ofText text.points with
  | ok v => exact absurd htext (hno v)
  | error fault => cases fault <;> exact ⟨_, rfl⟩

/-- Names that are no blanks and hold no commas are read from a text as they are. -/
theorem namesIn_joined_of_plain {names : List Text}
    (h : ∀ n ∈ names, trim n = n ∧ n ≠ "" ∧ .char ',' ∉ n.points) :
    namesIn (joined names) = names := by
  have hcommaless : ∀ n ∈ names, .char ',' ∉ n.points := fun n hn ↦ (h n hn).2.2
  rw [namesIn_joined, (flatMap_namesIn_eq_iff names).mpr hcommaless]
  have htrim : names.map trim = names := by
    rw [List.map_congr_left fun n hn ↦ (h n hn).1, List.map_id']
  rw [htrim, List.filter_eq_self]
  exact fun n hn ↦ decide_eq_true (h n hn).2.1

/-! ## Reading them -/

variable {ms : Members} {serviceName port : Json}

/-- A reading that succeeds has read the groups. -/
theorem groups_of_ofMembers {s : Settings} (h : ofMembers ms serviceName port = .valid s) :
    Checked.optional ms groupsField (.plain "") groups = .valid s.groupNames := by
  -- four fields come after the groups, and ten before them
  obtain ⟨_, _, h, -, hhost⟩ := Checked.seq_eq_valid_iff.mp h
  obtain ⟨_, _, h, -, hport⟩ := Checked.seq_eq_valid_iff.mp h
  obtain ⟨_, _, h, -, hname⟩ := Checked.seq_eq_valid_iff.mp h
  obtain ⟨_, _, h, -, hverified⟩ := Checked.seq_eq_valid_iff.mp h
  obtain ⟨_, names, h, hgroups, hnames⟩ := Checked.seq_eq_valid_iff.mp h
  simp only [Checked.seq_eq_valid_iff, Checked.map_eq_valid_iff] at h
  obtain ⟨_, _, ⟨_, _, ⟨_, _, ⟨_, _, ⟨_, _, ⟨_, _, ⟨_, _, ⟨_, _, ⟨_, _, ⟨_, -, rfl⟩, -, rfl⟩,
    -, rfl⟩, -, rfl⟩, -, rfl⟩, -, rfl⟩, -, rfl⟩, -, rfl⟩, -, rfl⟩, -, rfl⟩ := h
  subst hnames hverified hname hport hhost
  exact hgroups

/-- The groups are at fault in a reading if they cannot be read, and on no other account. -/
theorem groups_at_fault_iff {text : Text} (h : ms.get? groupsField = some (.str text)) :
    (∃ f ∈ (ofMembers ms serviceName port).faults, f.path.head? = some (.member groupsField)) ↔
      (normalizeGroups text).faults ≠ [] := by
  have hread : Checked.optional ms groupsField (.plain "") groups =
      (normalizeGroups text).under (.member groupsField) := by
    rw [Checked.optional, h]
    rfl
  have hfaults : (Checked.optional ms groupsField (.plain "") groups).faults ≠ [] ↔
      (normalizeGroups text).faults ≠ [] := by
    rw [hread]
    cases normalizeGroups text <;> simp [Checked.under, Checked.faults]
  rw [← hfaults]
  constructor
  · rintro ⟨f, hf, hpath⟩
    -- a fault of another field names that field
    have hoptional {α : Type} {name : String} {default : α} {read : Json → Checked α}
        (hne : name ≠ groupsField) : f ∉ (Checked.optional ms name default read).faults := by
      intro hmem
      have hname := hpath.symm.trans (Checked.head?_path_of_optional hmem)
      exact hne (PathStep.member.inj (Option.some.inj hname)).symm
    have hrequired {α : Type} {ms : Members} {name : String} {read : Json → Checked α}
        (hne : name ≠ groupsField) : f ∉ (Checked.required ms name read).faults := by
      intro hmem
      have hname := hpath.symm.trans (Checked.head?_path_of_required hmem)
      exact hne (PathStep.member.inj (Option.some.inj hname)).symm
    have hgroups : f ∈ (Checked.optional ms groupsField (.plain "") groups).faults := by
      simp only [ofMembers, Checked.faults_seq, Checked.faults_map, List.mem_append] at hf
      simp (disch := decide) only [hoptional, hrequired, or_false, false_or] at hf
      exact hf
    exact List.ne_nil_of_mem hgroups
  · intro hne
    obtain ⟨f, hf⟩ := List.exists_mem_of_ne_nil _ hne
    refine ⟨f, ?_, Checked.head?_path_of_optional hf⟩
    simp only [ofMembers, Checked.faults_seq, Checked.faults_map, List.mem_append]
    exact .inl (.inl (.inl (.inl (.inr hf))))

end Settings
end SessionGate
