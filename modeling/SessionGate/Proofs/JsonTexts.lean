import SessionGate.Json.Document
import SessionGate.Proofs.JsonStrings
import SessionGate.Proofs.Members
import SessionGate.Proofs.NumberTexts
import SessionGate.Proofs.Utf8Texts

/-!
# JSON text read back

A value whose text says it in full is read back from its text, `ofUtf8_print` and `ofBytes_write`.
The text may have blanks after its separators. Numbers are a matter of their own, which
`Proofs.NumberTexts` settles.

The induction is on the value. A value stands in front of what may follow one, so that numbers end,
and the reader has twice as much fuel as the value has characters: each item and each level of
nesting takes one unit and at least one character.
-/

namespace SessionGate

/-! ## Separators -/

/-- A separator is a mark with blanks after it. -/
def IsMark (mark : Char) (separator : List Char) : Prop :=
  ∃ blanks, separator = mark :: blanks ∧ ∀ c ∈ blanks, Json.isBlank c = true

/-- The separators are a comma and a colon with blanks after them. -/
structure JsonStyle.IsStandard (style : JsonStyle) : Prop where
  betweenItems : IsMark ',' style.betweenItems.toList
  afterName : IsMark ':' style.afterName.toList

theorem JsonStyle.isStandard_compact : compact.IsStandard :=
  ⟨⟨[], rfl, nofun⟩, ⟨[], rfl, nofun⟩⟩

/-- A text begins without a blank, and with no end of a list or an object. -/
def Json.StartsValue (cs : List Char) : Prop :=
  ∃ c rest, cs = c :: rest ∧ isBlank c = false ∧ c ≠ ']' ∧ c ≠ '\x7d'

theorem Json.skipBlanks_ofChars (cs : List Char) :
    skipBlanks (CodePoint.ofChars cs) = CodePoint.ofChars (cs.dropWhile isBlank) := by
  rw [skipBlanks, CodePoint.ofChars, List.dropWhile_map]
  rfl

theorem Json.dropWhile_of_starts {cs : List Char} (h : StartsValue cs) :
    cs.dropWhile isBlank = cs := by
  obtain ⟨c, rest, rfl, hblank, -⟩ := h
  rw [List.dropWhile_cons, hblank]
  rfl

namespace IsMark

variable {mark : Char} {separator : List Char}

theorem length_pos (h : IsMark mark separator) : 0 < separator.length := by
  obtain ⟨blanks, rfl, -⟩ := h
  exact Nat.succ_pos _

/-- What follows a separator is found after its mark. -/
theorem append (h : IsMark mark separator) {cs : List Char} (hcs : Json.StartsValue cs) :
    ∃ more, separator ++ cs = mark :: more ∧
      Json.skipBlanks (CodePoint.ofChars more) = CodePoint.ofChars cs := by
  obtain ⟨blanks, rfl, hblanks⟩ := h
  refine ⟨blanks ++ cs, rfl, ?_⟩
  rw [Json.skipBlanks_ofChars, List.dropWhile_append_of_pos hblanks, Json.dropWhile_of_starts hcs]

theorem isAscii (h : IsMark mark separator) (hmark : Text.IsAscii mark) :
    ∀ c ∈ separator, Text.IsAscii c := by
  obtain ⟨blanks, rfl, hblanks⟩ := h
  intro c hc
  rcases List.mem_cons.mp hc with rfl | hc
  · exact hmark
  · have hblank := hblanks c hc
    simp only [Json.isBlank, Bool.or_eq_true, beq_iff_eq] at hblank
    rcases hblank with ((rfl | rfl) | rfl) | rfl <;> decide

end IsMark

namespace Json

open Text CodePoint

variable {rest : List Char}

/-! ## Values -/

mutual

-- The number is the room for nesting, as in `value`.
/-- A value that its text says in full: no doubles, whose digits are another matter, no integers of
too many digits, no halves of a pair side by side, no name twice, and no more nesting than there is
room for. -/
def IsExact : Nat → Json → Prop
  | _, .str s => s.IsJoined
  | _, .int n => n.natAbs < Nat.pow 10 Text.digitLimit
  | _, .float _ => False
  | 0, .arr _ => False
  | room + 1, .arr xs => AreExact room xs
  | 0, .obj _ => False
  | room + 1, .obj ms => (Members.names ms).Nodup ∧ MembersAreExact room ms
  | _, _ => True

def AreExact : Nat → List Json → Prop
  | _, [] => True
  | room, x :: xs => IsExact room x ∧ AreExact room xs

def MembersAreExact : Nat → Members → Prop
  | _, [] => True
  | room, (n, v) :: ms => n.IsJoined ∧ IsExact room v ∧ MembersAreExact room ms

end

mutual

/-- A value that is read back from its text: as in `IsExact`, and its doubles are in canonical
form. -/
def IsLegible : Nat → Json → Prop
  | _, .str s => s.IsJoined
  | _, .int n => n.natAbs < Nat.pow 10 Text.digitLimit
  | _, .float x => x.IsCanonical
  | 0, .arr _ => False
  | room + 1, .arr xs => AreLegible room xs
  | 0, .obj _ => False
  | room + 1, .obj ms => (Members.names ms).Nodup ∧ MembersAreLegible room ms
  | _, _ => True

def AreLegible : Nat → List Json → Prop
  | _, [] => True
  | room, x :: xs => IsLegible room x ∧ AreLegible room xs

def MembersAreLegible : Nat → Members → Prop
  | _, [] => True
  | room, (n, v) :: ms => n.IsJoined ∧ IsLegible room v ∧ MembersAreLegible room ms

end

mutual

theorem IsExact.isLegible {room : Nat} {v : Json} (h : v.IsExact room) : v.IsLegible room := by
  cases v with
  | str s => exact h
  | int n => exact h
  | float x => simp [IsExact] at h
  | arr xs =>
    cases room with
    | zero => simp [IsExact] at h
    | succ room => exact AreExact.areLegible h
  | obj ms =>
    cases room with
    | zero => simp [IsExact] at h
    | succ room => exact ⟨h.1, MembersAreExact.areLegible h.2⟩
  | _ => simp [IsLegible]

theorem AreExact.areLegible {room : Nat} {xs : List Json} (h : AreExact room xs) :
    AreLegible room xs := by
  cases xs with
  | nil => exact trivial
  | cons x xs => exact ⟨h.1.isLegible, AreExact.areLegible h.2⟩

theorem MembersAreExact.areLegible {room : Nat} {ms : Members} (h : MembersAreExact room ms) :
    MembersAreLegible room ms := by
  cases ms with
  | nil => exact trivial
  | cons m ms => exact ⟨h.1, h.2.1.isLegible, MembersAreExact.areLegible h.2.2⟩

end

mutual

/-- A value that JSON has a text for: no name stands twice in an object, no halves of a pair stand
side by side in a text, and doubles are in canonical form. -/
def IsProper : Json → Prop
  | .str s => s.IsJoined
  | .float x => x.IsCanonical
  | .arr xs => AreProper xs
  | .obj ms => (Members.names ms).Nodup ∧ MembersAreProper ms
  | _ => True

def AreProper : List Json → Prop
  | [] => True
  | x :: xs => IsProper x ∧ AreProper xs

def MembersAreProper : Members → Prop
  | [] => True
  | (n, v) :: ms => n.IsJoined ∧ IsProper v ∧ MembersAreProper ms

end

mutual

/-- Such a value is read back from its text unless there is no room for the text. -/
theorem isLegible_iff {room : Nat} {v : Json} :
    v.IsLegible room ↔ v.IsProper ∧ v.textFault? room = none := by
  cases v with
  | int n =>
    simp only [IsLegible, IsProper, textFault?, true_and, ite_eq_left_iff, reduceCtorEq, imp_false,
      not_not]
  | arr xs =>
    cases room with
    | zero => simp [IsLegible, textFault?]
    | succ room => exact areLegible_iff
  | obj ms =>
    cases room with
    | zero => simp [IsLegible, textFault?]
    | succ room =>
      rw [IsLegible, IsProper, textFault?, membersAreLegible_iff, and_assoc]
  | _ => simp [IsLegible, IsProper, textFault?]

theorem areLegible_iff {room : Nat} {xs : List Json} :
    AreLegible room xs ↔ AreProper xs ∧ itemFault? room xs = none := by
  cases xs with
  | nil => simp [AreLegible, AreProper, itemFault?]
  | cons x xs =>
    rw [AreLegible, AreProper, itemFault?, Option.or_eq_none_iff, isLegible_iff, areLegible_iff,
      and_and_and_comm]

theorem membersAreLegible_iff {room : Nat} {ms : Members} :
    MembersAreLegible room ms ↔ MembersAreProper ms ∧ memberFault? room ms = none := by
  cases ms with
  | nil => simp [MembersAreLegible, MembersAreProper, memberFault?]
  | cons m ms =>
    rw [MembersAreLegible, MembersAreProper, memberFault?, Option.or_eq_none_iff, isLegible_iff,
      membersAreLegible_iff, and_and_and_comm, ← and_assoc]

end

/-- A text begins as a word or a number. -/
def StartsScalar (cs : List Char) : Prop :=
  ∃ c rest, cs = c :: rest ∧ isBlank c = false ∧ c ∉ ['"', '[', ']', '\x7b', '\x7d']

theorem StartsScalar.startsValue {cs : List Char} (h : StartsScalar cs) : StartsValue cs := by
  obtain ⟨c, rest, rfl, hblank, hc⟩ := h
  simp only [List.mem_cons, List.not_mem_nil, or_false, not_or] at hc
  exact ⟨c, rest, rfl, hblank, hc.2.2.1, hc.2.2.2.2⟩

theorem StartsNumber.startsScalar {cs : List Char} (h : StartsNumber cs) : StartsScalar cs := by
  obtain ⟨negative, d, more, hdigit, rfl⟩ := h
  have hno {c : Char} (hc : c.isDigit = false) : d ≠ c := ne_of_isDigit hdigit hc
  cases negative with
  | true => exact ⟨'-', d :: more, rfl, rfl, by decide⟩
  | false => exact ⟨d, more, rfl, by simp [isBlank, hno], by simp [hno]⟩

theorem startsScalar_toDecimal {x : Binary64} (hx : x.IsCanonical) (rest : List Char) :
    StartsScalar ((x.toDecimal numberLayout).toList ++ rest) := by
  cases x with
  | nan => exact ⟨'N', _, rfl, rfl, by decide⟩
  | infinite negative =>
    cases negative with
    | true => exact ⟨'-', _, rfl, rfl, by decide⟩
    | false => exact ⟨'I', _, rfl, rfl, by decide⟩
  | finite negative m e => exact (startsNumber_toDecimal hx rest).startsScalar

variable {style : JsonStyle} {room : Nat}

theorem startsValue_print {v : Json} (h : v.IsLegible room) (rest : List Char) :
    StartsValue (print style v ++ rest) := by
  cases v with
  | null => exact ⟨'n', _, rfl, rfl, by decide⟩
  | bool b =>
    cases b with
    | false => exact ⟨'f', _, rfl, rfl, by decide⟩
    | true => exact ⟨'t', _, rfl, rfl, by decide⟩
  | int n => exact (startsNumber_printInt n rest).startsScalar.startsValue
  | float x => exact (startsScalar_toDecimal h rest).startsValue
  | str s => exact ⟨'"', _, rfl, rfl, by decide⟩
  | arr xs => exact ⟨'[', _, rfl, rfl, by decide⟩
  | obj ms => exact ⟨'\x7b', _, rfl, rfl, by decide⟩

theorem value_of_scalar {fuel : Nat} {cs : List Char} (h : StartsScalar cs) :
    value (fuel + 1) room (ofChars cs) = scalar (ofChars cs) := by
  obtain ⟨c, more, rfl, -, hc⟩ := h
  rw [ofChars_cons]
  unfold value
  split <;> simp_all

theorem startsValue_members (m : Text × Json) (ms : Members) (separator rest : List Char) :
    StartsValue (separator.intercalate (printMembers style (m :: ms)) ++ rest) := by
  cases ms with
  | nil =>
    rw [printMembers, printMembers, List.intercalate_singleton]
    exact ⟨'"', _, rfl, rfl, by decide⟩
  | cons n ms =>
    rw [printMembers, printMembers, List.intercalate_cons_cons]
    exact ⟨'"', _, rfl, rfl, by decide⟩

theorem startsValue_items {x : Json} {xs : List Json} (h : AreLegible room (x :: xs))
    (separator rest : List Char) :
    StartsValue (separator.intercalate (printItems style (x :: xs)) ++ rest) := by
  rw [AreLegible] at h
  cases xs with
  | nil =>
    rw [printItems, printItems, List.intercalate_singleton]
    exact startsValue_print h.1 rest
  | cons y ys =>
    rw [printItems, printItems, List.intercalate_cons_cons, List.append_assoc, List.append_assoc]
    exact startsValue_print h.1 _

/-- A list that does not begin with its end is read as its items. -/
theorem value_of_items {fuel : Nat} {cs : List Char} {xs : List Json} (hcs : StartsValue cs)
    (h : items fuel room (ofChars cs) = .ok (xs, ofChars rest)) :
    value (fuel + 1) (room + 1) (ofChars ('[' :: cs)) = .ok (.arr xs, ofChars rest) := by
  rw [ofChars_cons, value, skipBlanks_ofChars, dropWhile_of_starts hcs]
  obtain ⟨c, more, rfl, -, hclose, -⟩ := hcs
  rw [ofChars_cons] at h ⊢
  simp [h, hclose, bind, Except.bind, pure, Except.pure]

/-- An object that does not begin with its end is read as its members, if their names differ. -/
theorem value_of_members {fuel : Nat} {cs : List Char} {ms : Members} (hcs : StartsValue cs)
    (hnames : (Members.names ms).Nodup)
    (h : members fuel room (ofChars cs) = .ok (ms, ofChars rest)) :
    value (fuel + 1) (room + 1) (ofChars ('\x7b' :: cs)) = .ok (.obj ms, ofChars rest) := by
  rw [ofChars_cons, value, skipBlanks_ofChars, dropWhile_of_starts hcs]
  obtain ⟨c, more, rfl, -, -, hclose⟩ := hcs
  rw [ofChars_cons] at h ⊢
  simp [h, hclose, bind, Except.bind, pure, Except.pure, Members.ofList_eq_self hnames]

/-- A member is read as its name and its value, and what follows it decides how to go on. -/
theorem members_of_value (hstyle : style.IsStandard) {fuel : Nat} {name : Text} {v : Json}
    (hname : name.IsJoined) (hv : v.IsLegible room)
    (hvalue : value fuel room (ofChars (print style v ++ rest)) = .ok (v, ofChars rest)) :
    members (fuel + 1) room
        (ofChars (quote name ++ style.afterName.toList ++ print style v ++ rest)) =
      match skipBlanks (ofChars rest) with
      | .char '\x7d' :: last => .ok ([(name, v)], last)
      | .char ',' :: more => do
        let (ms, last) ← members fuel room (skipBlanks more)
        return ((name, v) :: ms, last)
      | other => fail .comma other := by
  obtain ⟨more, hmore, hskip⟩ := hstyle.afterName.append (@startsValue_print style room v hv rest)
  rw [List.append_assoc, List.append_assoc, hmore]
  obtain ⟨body, hquote, hbody⟩ :=
    @stringBody_of_quote (ofChars (quote name ++ ':' :: more)) name hname (':' :: more)
  rw [hquote] at hbody ⊢
  have hcolon : skipBlanks (ofChars (':' :: more)) = .char ':' :: ofChars more := rfl
  rw [members, hbody]
  simp only [bind, Except.bind, hcolon, hskip, hvalue, ofPoints_points]
  rfl

-- A value takes a unit of fuel, and so does every item and member around one. None of them is
-- written without a character, so that twice the length is enough.
mutual

theorem value_print (hstyle : style.IsStandard) (v : Json) {room fuel : Nat} {rest : List Char}
    (hv : v.IsLegible room) (hfuel : 2 * (print style v).length ≤ fuel) (hrest : EndsValue rest) :
    value fuel room (ofChars (print style v ++ rest)) = .ok (v, ofChars rest) := by
  obtain ⟨c, more, hstarts, -⟩ := @startsValue_print style room v hv []
  have hpositive : 0 < (print style v).length := by
    rw [← List.append_nil (print style v), hstarts]
    exact Nat.succ_pos _
  obtain ⟨fuel, rfl⟩ : ∃ n, fuel = n + 1 := ⟨fuel - 1, by omega⟩
  cases v with
  | null => exact (value_of_scalar ⟨'n', _, rfl, rfl, by decide⟩).trans (scalar_word rfl)
  | bool b =>
    cases b with
    | false => exact (value_of_scalar ⟨'f', _, rfl, rfl, by decide⟩).trans (scalar_word rfl)
    | true => exact (value_of_scalar ⟨'t', _, rfl, rfl, by decide⟩).trans (scalar_word rfl)
  | int n =>
    rw [print, value_of_scalar (startsNumber_printInt n rest).startsScalar]
    exact scalar_printInt hv hrest
  | float x =>
    rw [print, value_of_scalar (startsScalar_toDecimal hv rest)]
    exact scalar_toDecimal hv hrest
  | str s =>
    obtain ⟨body, hquote, hbody⟩ := @stringBody_of_quote (ofChars (quote s ++ rest)) s hv rest
    rw [print]
    rw [hquote] at hbody ⊢
    rw [value]
    refine bind_eq_ok_iff.mpr ⟨_, hbody, ?_⟩
    simp only [ofPoints_points]
    rfl
  | arr xs =>
    cases room with
    | zero => simp [IsLegible] at hv
    | succ room =>
      cases xs with
      | nil => rfl
      | cons x xs =>
        rw [IsLegible] at hv
        simp only [print, List.length_cons, List.length_append, List.length_nil] at hfuel
        rw [print, List.cons_append, List.cons_append, List.append_assoc, List.singleton_append]
        exact value_of_items (startsValue_items hv _ _)
          (items_print hstyle (x :: xs) (List.cons_ne_nil x xs) hv (by omega))
  | obj ms =>
    cases room with
    | zero => simp [IsLegible] at hv
    | succ room =>
      cases ms with
      | nil => rfl
      | cons m ms =>
        rw [IsLegible] at hv
        simp only [print, List.length_cons, List.length_append, List.length_nil] at hfuel
        rw [print, List.cons_append, List.cons_append, List.append_assoc, List.singleton_append]
        exact value_of_members (startsValue_members m ms _ _) hv.1
          (members_print hstyle (m :: ms) (List.cons_ne_nil m ms) hv.2 (by omega))

theorem items_print (hstyle : style.IsStandard) (xs : List Json) {room fuel : Nat}
    {rest : List Char} (hne : xs ≠ []) (hv : AreLegible room xs)
    (hfuel : 2 * (style.betweenItems.toList.intercalate (printItems style xs)).length < fuel) :
    items fuel room
        (ofChars (style.betweenItems.toList.intercalate (printItems style xs) ++ ']' :: rest)) =
      .ok (xs, ofChars rest) := by
  obtain ⟨fuel, rfl⟩ : ∃ n, fuel = n + 1 := ⟨fuel - 1, by omega⟩
  cases xs with
  | nil => exact absurd rfl hne
  | cons x xs =>
    rw [AreLegible] at hv
    cases xs with
    | nil =>
      rw [printItems, printItems, List.intercalate_singleton] at hfuel ⊢
      have hx := @value_print hstyle x room fuel (']' :: rest) hv.1 (by omega) (by simp [EndsValue])
      rw [items, hx]
      rfl
    | cons y ys =>
      rw [printItems, printItems, List.intercalate_cons_cons, ← printItems] at hfuel ⊢
      rw [List.append_assoc, List.append_assoc]
      simp only [List.length_append] at hfuel
      have hseparator := hstyle.betweenItems.length_pos
      obtain ⟨more, hmore, hskip⟩ := hstyle.betweenItems.append
        (@startsValue_items style room y ys hv.2 style.betweenItems.toList (']' :: rest))
      have hx := @value_print hstyle x room fuel (',' :: more) hv.1 (by omega) (by simp [EndsValue])
      rw [hmore]
      have hys := @items_print hstyle (y :: ys) room fuel rest nofun hv.2 (by omega)
      rw [← hskip] at hys
      rw [items, hx]
      exact bind_eq_ok_iff.mpr ⟨_, rfl, bind_eq_ok_iff.mpr ⟨_, hys, rfl⟩⟩

theorem members_print (hstyle : style.IsStandard) (ms : Members)
    {room fuel : Nat} {rest : List Char} (hne : ms ≠ []) (hv : MembersAreLegible room ms)
    (hfuel : 2 * (style.betweenItems.toList.intercalate (printMembers style ms)).length < fuel) :
    members fuel room (ofChars
        (style.betweenItems.toList.intercalate (printMembers style ms) ++ '\x7d' :: rest)) =
      .ok (ms, ofChars rest) := by
  obtain ⟨fuel, rfl⟩ : ∃ n, fuel = n + 1 := ⟨fuel - 1, by omega⟩
  cases ms with
  | nil => exact absurd rfl hne
  | cons m ms =>
    obtain ⟨name, v⟩ := m
    rw [MembersAreLegible] at hv
    cases ms with
    | nil =>
      rw [printMembers, printMembers, List.intercalate_singleton] at hfuel ⊢
      simp only [List.length_append] at hfuel
      have hx := @value_print hstyle v room fuel ('\x7d' :: rest) hv.2.1 (by omega)
        (by simp [EndsValue])
      rw [members_of_value hstyle hv.1 hv.2.1 hx]
      rfl
    | cons n ms =>
      obtain ⟨next, w⟩ := n
      rw [printMembers, printMembers, List.intercalate_cons_cons, ← printMembers] at hfuel ⊢
      rw [List.append_assoc, List.append_assoc]
      simp only [List.length_append] at hfuel
      have hseparator := hstyle.betweenItems.length_pos
      obtain ⟨more, hmore, hskip⟩ := hstyle.betweenItems.append
        (@startsValue_members style (next, w) ms style.betweenItems.toList ('\x7d' :: rest))
      have hx := @value_print hstyle v room fuel (',' :: more) hv.2.1 (by omega)
        (by simp [EndsValue])
      have hms := @members_print hstyle ((next, w) :: ms) room fuel rest nofun hv.2.2 (by omega)
      rw [← hskip] at hms
      rw [hmore, members_of_value hstyle hv.1 hv.2.1 hx]
      exact bind_eq_ok_iff.mpr ⟨_, hms, rfl⟩

end

/-! ## Letters -/

theorem mem_intercalate {separator : List Char} {texts : List (List Char)} {c : Char}
    (h : c ∈ separator.intercalate texts) : c ∈ separator ∨ ∃ text ∈ texts, c ∈ text := by
  induction texts with
  | nil => cases h
  | cons text texts ih =>
    cases texts with
    | nil =>
      rw [List.intercalate_singleton] at h
      exact .inr ⟨text, List.mem_cons_self, h⟩
    | cons next texts =>
      rw [List.intercalate_cons_cons, List.mem_append, List.mem_append] at h
      rcases h with (h | h) | h
      · exact .inr ⟨text, List.mem_cons_self, h⟩
      · exact .inl h
      · exact (ih h).imp_right fun ⟨other, hother, hc⟩ ↦ ⟨other, List.mem_cons_of_mem _ hother, hc⟩

mutual

theorem isAscii_print (hstyle : style.IsStandard) (v : Json) {room : Nat} (hv : v.IsLegible room) :
    ∀ c ∈ print style v, IsAscii c := by
  have hwrapped {opening closing : Char} {texts : List (List Char)} (hopening : IsAscii opening)
      (hclosing : IsAscii closing) (htexts : ∀ text ∈ texts, ∀ c ∈ text, IsAscii c) :
      ∀ c ∈ opening :: style.betweenItems.toList.intercalate texts ++ [closing], IsAscii c := by
    intro c hc
    rw [List.mem_append, List.mem_cons, List.mem_singleton] at hc
    rcases hc with (rfl | hc) | rfl
    · exact hopening
    · rcases mem_intercalate hc with hc | ⟨text, htext, hc⟩
      · exact hstyle.betweenItems.isAscii (by decide) c hc
      · exact htexts text htext c hc
    · exact hclosing
  cases v with
  | null => exact isAscii_of_all rfl
  | bool b => cases b <;> exact isAscii_of_all rfl
  | int n => exact isAscii_printInt n
  | float x => exact isAscii_toDecimal hv
  | str s => exact fun c hc ↦ isAscii_quote hc
  | arr xs =>
    cases room with
    | zero => simp [IsLegible] at hv
    | succ room => exact hwrapped (by decide) (by decide) (isAscii_printItems hstyle xs hv)
  | obj ms =>
    cases room with
    | zero => simp [IsLegible] at hv
    | succ room => exact hwrapped (by decide) (by decide) (isAscii_printMembers hstyle ms hv.2)

theorem isAscii_printItems (hstyle : style.IsStandard) (xs : List Json) {room : Nat}
    (hv : AreLegible room xs) : ∀ text ∈ printItems style xs, ∀ c ∈ text, IsAscii c := by
  cases xs with
  | nil => exact nofun
  | cons x xs =>
    exact List.forall_mem_cons.mpr
      ⟨isAscii_print hstyle x hv.1, isAscii_printItems hstyle xs hv.2⟩

theorem isAscii_printMembers (hstyle : style.IsStandard) (ms : Members) {room : Nat}
    (hv : MembersAreLegible room ms) : ∀ text ∈ printMembers style ms, ∀ c ∈ text, IsAscii c := by
  cases ms with
  | nil => exact nofun
  | cons m ms =>
    obtain ⟨name, v⟩ := m
    refine List.forall_mem_cons.mpr ⟨fun c hc ↦ ?_, isAscii_printMembers hstyle ms hv.2.2⟩
    rw [List.mem_append, List.mem_append] at hc
    rcases hc with (hc | hc) | hc
    · exact isAscii_quote hc
    · exact hstyle.afterName.isAscii (by decide) c hc
    · exact isAscii_print hstyle v hv.2.1 c hc

end

/-! ## Documents -/

theorem document_print (hstyle : style.IsStandard) {v : Json} (hv : v.IsLegible depthLimit) :
    document (ofChars (print style v)) = .ok v := by
  have hstarts := @startsValue_print style depthLimit v hv []
  have hvalue := @value_print style hstyle v depthLimit (2 * (print style v).length + 1) [] hv
    (Nat.le_succ _) endsValue_nil
  rw [List.append_nil] at hstarts hvalue
  rw [document, skipBlanks_ofChars, dropWhile_of_starts hstarts, length_ofChars]
  exact bind_eq_ok_iff.mpr ⟨_, hvalue, rfl⟩

/-- An object begins with a brace and one more letter. -/
theorem print_obj (style : JsonStyle) (ms : Members) :
    ∃ c cs, print style (.obj ms) = '\x7b' :: c :: cs := by
  cases ms with
  | nil => exact ⟨_, _, rfl⟩
  | cons m ms =>
    obtain ⟨c, rest, hcs, -⟩ :=
      @startsValue_members style m ms style.betweenItems.toList ['\x7d']
    exact ⟨c, rest, by rw [print, List.cons_append, hcs]⟩

/-- **An object is read back from the bytes of its text.** -/
theorem ofBytes_write (hstyle : style.IsStandard) {ms : Members}
    (hms : (Json.obj ms).IsLegible depthLimit) :
    ofBytes (utf8 ((Json.obj ms).write style)) = .ok (.obj ms) := by
  have hascii := isAscii_print hstyle _ hms
  have hdocument := document_print hstyle hms
  obtain ⟨c, cs, hprint⟩ := print_obj style ms
  rw [hprint] at hascii hdocument
  rw [ofBytes, write, utf8, String.toList_ofList, hprint, decodeDocument_encodeUtf8 hascii]
  simp only [hdocument, mapError_ok]

end Json

end SessionGate
