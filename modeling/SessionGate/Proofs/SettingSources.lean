import SessionGate.Proofs.Members
import SessionGate.Settings

/-!
# Where a setting comes from

The settings are read from one object, which the environment and the settings file make together.
`Settings.given` is that object. A variable sets the field that its name has behind the prefix, in
any case, and of several variables that set a field the last one counts; what the file says about
the field does not matter then.
-/

namespace SessionGate.Settings

open Text

/-- A setting of a source is put to those before it. -/
def bound (ms : Members) (p : String × Option String) : Members :=
  let name := (lower p.1).toList
  let key := String.ofList (name.drop namePrefix.length)
  if namePrefix.toList.isPrefixOf name then
    match p.2 with
    | some value => ms.insert key (.str value)
    | none => ms.erase key
  else ms

theorem ofSource_eq (pairs : List (String × Option String)) :
    ofSource pairs = pairs.foldl bound [] := rfl

theorem nodup_names_bound {ms : Members} (h : ms.names.Nodup) (p : String × Option String) :
    (bound ms p).names.Nodup := by
  rw [bound]
  split
  · split
    · exact Members.nodup_names_insert h _ _
    · exact Members.nodup_names_erase h _
  · exact h

theorem nodup_names_ofSource (pairs : List (String × Option String)) :
    (ofSource pairs).names.Nodup := by
  have hbegin : Members.names [] = [] := rfl
  have hnodup : (Members.names []).Nodup := hbegin ▸ List.Pairwise.nil
  rw [ofSource_eq]
  generalize ([] : Members) = ms at hnodup ⊢
  induction pairs generalizing ms with
  | nil => exact hnodup
  | cons p pairs ih => exact ih (bound ms p) (nodup_names_bound hnodup p)

/-- A variable of the name, in any case, sets a field. -/
theorem get?_bound_self {ms : Members} {name field value : String}
    (h : lower name = namePrefix ++ field) :
    (bound ms (name, some value)).get? field = some (.str value) := by
  have hkey : String.ofList ((namePrefix ++ field).toList.drop namePrefix.length) = field := by
    rw [String.toList_append, ← String.length_toList, List.drop_left, String.ofList_toList]
  have hprefix : namePrefix.toList.isPrefixOf (namePrefix ++ field).toList = true := by
    rw [String.toList_append, List.isPrefixOf_iff_prefix]
    exact List.prefix_append _ _
  rw [bound]
  simp only [h, hprefix, hkey, if_true]
  rw [Members.get?_insert, if_pos rfl]

/-- A variable of another name does not touch it. -/
theorem get?_bound_of_ne {ms : Members} {p : String × Option String} {field : String}
    (h : lower p.1 ≠ namePrefix ++ field) : (bound ms p).get? field = ms.get? field := by
  rw [bound]
  split
  · next hprefix =>
    obtain ⟨rest, hname⟩ := List.isPrefixOf_iff_prefix.mp hprefix
    have hdrop : (lower p.1).toList.drop namePrefix.length = rest := by
      rw [← hname, ← String.length_toList, List.drop_left]
    have hne : Text.plain field ≠ .plain (String.ofList rest) := by
      rintro ⟨⟩
      refine h (String.toList_inj.mp ?_)
      rw [String.toList_append, String.toList_ofList, hname]
    simp only [hdrop]
    split
    · rw [Members.get?_insert, if_neg hne]
    · rw [Members.get?_erase, if_neg hne]
  · rfl

/-- Of the variables of a name the last one counts. -/
theorem get?_ofSource_of_last {before after : List (String × Option String)}
    {name field value : String} (h : lower name = namePrefix ++ field)
    (hlast : ∀ p ∈ after, lower p.1 ≠ namePrefix ++ field) :
    (ofSource (before ++ (name, some value) :: after)).get? field = some (.str value) := by
  rw [ofSource_eq, List.foldl_append, List.foldl_cons]
  have hset := @get?_bound_self (before.foldl bound []) name field value h
  generalize bound (before.foldl bound []) (name, some value) = ms at hset ⊢
  induction after generalizing ms with
  | nil => exact hset
  | cons p after ih =>
    rw [List.foldl_cons]
    refine ih (fun q hq ↦ hlast q (List.mem_cons_of_mem _ hq)) _ ?_
    rw [get?_bound_of_ne (hlast p List.mem_cons_self), hset]

/-- All settings that are given, those of the environment over those of the file. -/
def given (environment : List (String × String)) (file : Option String) : Members :=
  let environment := environment.map fun (name, value) ↦ (name, some value)
  let fromFile := (file.map (Dotenv.read environment)).getD []
  Members.override (ofSource fromFile) (ofSource environment)

theorem read_eq (environment : List (String × String)) (file : Option String)
    (serviceName port : Json) :
    read environment file serviceName port =
      ofMembers (given environment file) serviceName port := rfl

theorem get?_given_of_last {before after : List (String × String)} {file : Option String}
    {name field value : String} (h : lower name = namePrefix ++ field)
    (hlast : ∀ p ∈ after, lower p.1 ≠ namePrefix ++ field) :
    (given (before ++ (name, value) :: after) file).get? field = some (.str value) := by
  rw [given, Members.get?_override (nodup_names_ofSource _), List.map_append, List.map_cons]
  rw [get?_ofSource_of_last h]
  · rfl
  · intro p hp
    obtain ⟨q, hq, rfl⟩ := List.mem_map.mp hp
    exact hlast q hq

end SessionGate.Settings
