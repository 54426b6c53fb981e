-- SUMMARY: Searching the groups of a regex for the slots of declarations: when it succeeds, what it finds, and which slot is reported as missing.
import PathGlob.Proofs.Pattern.Parsability
import PathGlob.Proofs.Pattern.Participation

/-!
# Slots among the groups of a regex

The slot of a declaration is searched by name among all groups of a regex, those that constraints
open included. The groups of a compiled regex have numbers and names of their own, and positions
have different slot names. So different declarations are bound to different groups, whatever
other names a regex has.
-/

namespace PathGlob

/-! ## Named groups -/

namespace Regex

/-- The names that groups of an expression have. -/
def groupNames {α : Type} (r : Regex α) : List String := r.captures.filterMap Prod.snd

/-- Whether groups are numbered from one on, and no two share their number or their name. -/
structure HasDistinctGroups {α : Type} (r : Regex α) : Prop where
  one_le : ∀ c ∈ r.captures, 1 ≤ c.1
  eq_of_index : ∀ c ∈ r.captures, ∀ d ∈ r.captures, c.1 = d.1 → c = d
  eq_of_name : ∀ c ∈ r.captures, ∀ d ∈ r.captures, ∀ name : String,
    c.2 = some name → d.2 = some name → c = d

variable {r : Regex Atom} {name : String}

theorem mem_groupNames_iff {α : Type} {r : Regex α} :
    name ∈ r.groupNames ↔ ∃ group, (group, some name) ∈ r.captures := by
  rw [groupNames, List.mem_filterMap]
  constructor
  · rintro ⟨⟨group, _⟩, hmem, rfl⟩
    exact ⟨group, hmem⟩
  · rintro ⟨group, hmem⟩
    exact ⟨_, hmem, rfl⟩

theorem mem_captures_of_groupNamed? {group : Nat} (h : r.groupNamed? name = some group) :
    (group, some name) ∈ r.captures := by
  obtain ⟨c, hfind, rfl⟩ := Option.map_eq_some_iff.1 h
  have hname : c.2 = some name := by simpa using List.find?_some hfind
  rw [← hname]
  exact List.mem_of_find?_eq_some hfind

theorem groupNamed?_eq_none_iff : r.groupNamed? name = none ↔ name ∉ r.groupNames := by
  rw [mem_groupNames_iff, groupNamed?, Option.map_eq_none_iff, List.find?_eq_none, not_exists]
  constructor
  · intro h group hmem
    exact h _ hmem (by simp)
  · rintro h ⟨group, found⟩ hmem hfound
    obtain rfl : found = some name := by simpa using hfound
    exact h group hmem

theorem lt_groupCount {c : Nat × Option String} (h : c ∈ r.captures) : c.1 < r.groupCount := by
  rw [groupCount_eq]
  exact Nat.lt_succ_of_le (highest_le_iff.1 (Nat.le_refl _) c h)

/-- Flags and normal form leave the groups of a tree their numbers and names. -/
theorem hasDistinctGroups_of_resolve {text : List Char} {a : Ast} {f : Flags}
    (ha : Ast.parse text = some a) (h : a.resolve f = some r) : r.HasDistinctGroups := by
  obtain ⟨hindices, hnames⟩ := Ast.parse_isNumbered ha
  have hkept {c : Nat × Option String} (hc : c ∈ r.captures) :
      ∃ y ∈ a.kept, y.label = c := List.mem_map.1 ((mem_captures_iff h c).1 hc)
  have hcaptures {c : Nat × Option String} (hc : c ∈ r.captures) : c ∈ a.captures :=
    a.kept_sublist.subset ((mem_captures_iff h c).1 hc)
  refine ⟨fun c hc => ?_, fun c hc d hd heq => ?_, fun c hc d hd name hcname hdname => ?_⟩
  · have hindex : c.1 ∈ List.range' 1 a.captures.length :=
      hindices ▸ List.mem_map_of_mem (hcaptures hc)
    exact (List.mem_range'_1.1 hindex).1
  · obtain ⟨x, hx, rfl⟩ := hkept hc
    obtain ⟨y, hy, rfl⟩ := hkept hd
    exact congrArg CaptureNode.label (Ast.eq_of_index_eq ha hx hy heq)
  · exact eq_of_name_eq hnames (hcaptures hc) (hcaptures hd) hcname hdname

end Regex

theorem CompiledRegex.hasDistinctGroups {source : String} {caseInsensitive : Bool} {limit : Nat}
    {r : CompiledRegex} (h : compile source caseInsensitive limit = .ok r) :
    r.regex.HasDistinctGroups := by
  obtain ⟨-, hregex, -⟩ := compile_eq_ok_iff.1 h
  obtain ⟨a, ha, hresolve⟩ := Option.bind_eq_some_iff.1 hregex
  exact Regex.hasDistinctGroups_of_resolve ha hresolve

/-! ## The search -/

section

variable {r : Regex Atom} {n : Nat} {names : List String} {slots : List Slot} {e : RegexError}

/-- The search fails for the first declaration, or for one behind it. -/
theorem bindSlots_cons_eq_error_iff {name : String} :
    bindSlots r n (name :: names) = .error e ↔
      Pattern.slotName n ∉ r.groupNames ∧ e = .missingSlot (Pattern.slotName n) name ∨
        Pattern.slotName n ∈ r.groupNames ∧ bindSlots r (n + 1) names = .error e := by
  rw [bindSlots]
  cases hgroup : r.groupNamed? (Pattern.slotName n) with
  | none =>
    have hmissing := Regex.groupNamed?_eq_none_iff.1 hgroup
    simp [hmissing, eq_comm]
  | some group =>
    have hpresent : Pattern.slotName n ∈ r.groupNames :=
      Regex.mem_groupNames_iff.2 ⟨group, Regex.mem_captures_of_groupNamed? hgroup⟩
    cases bindSlots r (n + 1) names with
    | ok slots => simp [hpresent, Except.map]
    | error e' => simp [hpresent, Except.map]

/-- The search fails at the first declaration whose slot is missing. -/
theorem bindSlots_eq_error_iff : bindSlots r n names = .error e ↔
    ∃ k name, names[k]? = some name ∧ e = .missingSlot (Pattern.slotName (n + k)) name ∧
      Pattern.slotName (n + k) ∉ r.groupNames ∧
      ∀ j < k, Pattern.slotName (n + j) ∈ r.groupNames := by
  induction names generalizing n with
  | nil =>
    refine iff_of_false nofun ?_
    rintro ⟨k, name, hname, -⟩
    cases hname
  | cons name names ih =>
    rw [bindSlots_cons_eq_error_iff, ih]
    constructor
    · rintro (⟨hmissing, rfl⟩ | ⟨hpresent, k, found, hfound, rfl, hmissing, hbefore⟩)
      · exact ⟨0, name, rfl, rfl, hmissing, fun j hj => absurd hj (Nat.not_lt_zero j)⟩
      · rw [Nat.add_right_comm] at hmissing ⊢
        refine ⟨k + 1, found, hfound, rfl, hmissing, fun j hj => ?_⟩
        cases j with
        | zero => exact hpresent
        | succ j =>
          have hslot := hbefore j (Nat.lt_of_succ_lt_succ hj)
          rwa [Nat.add_right_comm] at hslot
    · rintro ⟨k, found, hfound, rfl, hmissing, hbefore⟩
      cases k with
      | zero =>
        cases hfound
        exact .inl ⟨hmissing, rfl⟩
      | succ k =>
        rw [← Nat.add_assoc, Nat.add_right_comm] at hmissing ⊢
        refine .inr ⟨hbefore 0 (Nat.succ_pos k), k, found, hfound, rfl, hmissing, fun j hj => ?_⟩
        rw [Nat.add_right_comm]
        exact hbefore (j + 1) (Nat.succ_lt_succ hj)

/-- The search succeeds if no slot is missing. -/
theorem exists_bindSlots_iff : (∃ slots, bindSlots r n names = .ok slots) ↔
    ∀ k < names.length, Pattern.slotName (n + k) ∈ r.groupNames := by
  constructor
  · rintro ⟨slots, h⟩ k hk
    obtain ⟨group, hgroup, -⟩ := exists_getElem?_of_bindSlots h (List.getElem?_eq_getElem hk)
    exact Regex.mem_groupNames_iff.2 ⟨group, Regex.mem_captures_of_groupNamed? hgroup⟩
  · intro h
    cases hslots : bindSlots r n names with
    | ok slots => exact ⟨slots, rfl⟩
    | error e =>
      obtain ⟨k, name, hname, -, hmissing, -⟩ := bindSlots_eq_error_iff.1 hslots
      exact absurd (h k (List.getElem?_eq_some_iff.1 hname).1) hmissing

theorem mem_captures_of_bindSlots (h : bindSlots r n names = .ok slots) {k : Nat} {slot : Slot}
    (hslot : slots[k]? = some slot) :
    (slot.group, some (Pattern.slotName (n + k))) ∈ r.captures := by
  have hname : names[k]? = some slot.name := by
    rw [← names_of_bindSlots h, List.getElem?_map, hslot]
    rfl
  obtain ⟨group, hgroup, hfound⟩ := exists_getElem?_of_bindSlots h hname
  rw [hslot] at hfound
  obtain rfl : slot.group = group := congrArg Slot.group (Option.some.inj hfound)
  exact Regex.mem_captures_of_groupNamed? hgroup

/-- Declarations at different positions are bound to different groups. -/
theorem nodup_groups_of_bindSlots (hr : r.HasDistinctGroups)
    (h : bindSlots r n names = .ok slots) : (slots.map Slot.group).Nodup := by
  rw [List.Nodup, List.pairwise_map, List.pairwise_iff_getElem]
  intro i j hi hj hij hsame
  have hfirst := mem_captures_of_bindSlots h (List.getElem?_eq_getElem hi)
  have hsecond := mem_captures_of_bindSlots h (List.getElem?_eq_getElem hj)
  have hslots := congrArg Prod.snd (hr.eq_of_index _ hfirst _ hsecond hsame)
  have hposition := Pattern.slotName_inj (Option.some.inj hslots)
  omega

end

/-- The slots of some declarations are found in a compiled regex if a group has the name of each of
their positions, and then every declaration has a group of its own, which is not the whole match.
Otherwise the first declaration whose slot is missing is reported. No other names that groups have
matter, since different positions have different slot names. -/
theorem bindSlots_finds_named {source : String} {caseInsensitive : Bool} {limit : Nat}
    {r : CompiledRegex} (hr : CompiledRegex.compile source caseInsensitive limit = .ok r)
    (names : List String) :
    Function.Injective Pattern.slotName ∧ r.regex.HasDistinctGroups ∧
      ((∃ slots, bindSlots r.regex 0 names = .ok slots) ↔
        ∀ n < names.length, Pattern.slotName n ∈ r.regex.groupNames) ∧
      (∀ slots, bindSlots r.regex 0 names = .ok slots →
        slots.map Slot.name = names ∧
          (∀ n slot, slots[n]? = some slot →
            (slot.group, some (Pattern.slotName n)) ∈ r.regex.captures) ∧
          (slots.map Slot.group).Nodup ∧
          ∀ slot ∈ slots, 1 ≤ slot.group ∧ slot.group < r.regex.groupCount) ∧
      ∀ e, bindSlots r.regex 0 names = .error e ↔
        ∃ n name, names[n]? = some name ∧ e = .missingSlot (Pattern.slotName n) name ∧
          Pattern.slotName n ∉ r.regex.groupNames ∧
          ∀ k < n, Pattern.slotName k ∈ r.regex.groupNames := by
  have hdistinct := CompiledRegex.hasDistinctGroups hr
  refine ⟨fun m n => Pattern.slotName_inj, hdistinct, ?_, fun slots hslots => ?_, fun e => ?_⟩
  · simpa only [Nat.zero_add] using exists_bindSlots_iff (r := r.regex) (n := 0)
  · have hfound {n : Nat} {slot : Slot} (hslot : slots[n]? = some slot) :
        (slot.group, some (Pattern.slotName n)) ∈ r.regex.captures := by
      have hmem := mem_captures_of_bindSlots hslots hslot
      rwa [Nat.zero_add] at hmem
    refine ⟨names_of_bindSlots hslots, fun n slot => hfound,
      nodup_groups_of_bindSlots hdistinct hslots, fun slot hmem => ?_⟩
    obtain ⟨n, hslot⟩ := List.mem_iff_getElem?.1 hmem
    exact ⟨hdistinct.one_le _ (hfound hslot), Regex.lt_groupCount (hfound hslot)⟩
  · simpa only [Nat.zero_add] using bindSlots_eq_error_iff (r := r.regex) (n := 0)

/-- Groups in another order than the slots, with one between them that has a name of its own. The
slot of the third declaration is missing, and `__var20` is not taken for it. -/
theorem bindSlots_finds_named_reordered :
    ∃ r, CompiledRegex.compile "(?P<__var1>a)(?P<x>b)(?P<__var0>(?P<__var20>c))" = .ok r ∧
      bindSlots r.regex 0 ["p", "q"] = .ok [⟨"p", 3⟩, ⟨"q", 1⟩] ∧
      bindSlots r.regex 0 ["p", "q", "s"] = .error (.missingSlot "__var2" "s") ∧
      (Function.Injective Pattern.slotName ∧ r.regex.HasDistinctGroups ∧
        ((∃ slots, bindSlots r.regex 0 ["p", "q", "s"] = .ok slots) ↔
          ∀ n < ["p", "q", "s"].length, Pattern.slotName n ∈ r.regex.groupNames) ∧
        (∀ slots, bindSlots r.regex 0 ["p", "q", "s"] = .ok slots →
          slots.map Slot.name = ["p", "q", "s"] ∧
            (∀ n slot, slots[n]? = some slot →
              (slot.group, some (Pattern.slotName n)) ∈ r.regex.captures) ∧
            (slots.map Slot.group).Nodup ∧
            ∀ slot ∈ slots, 1 ≤ slot.group ∧ slot.group < r.regex.groupCount) ∧
        ∀ e, bindSlots r.regex 0 ["p", "q", "s"] = .error e ↔
          ∃ n name, ["p", "q", "s"][n]? = some name ∧
            e = .missingSlot (Pattern.slotName n) name ∧
            Pattern.slotName n ∉ r.regex.groupNames ∧
            ∀ k < n, Pattern.slotName k ∈ r.regex.groupNames) := by
  obtain ⟨r, hr, hfound, hmissing⟩ : ∃ r,
      CompiledRegex.compile "(?P<__var1>a)(?P<x>b)(?P<__var0>(?P<__var20>c))" = .ok r ∧
        bindSlots r.regex 0 ["p", "q"] = .ok [⟨"p", 3⟩, ⟨"q", 1⟩] ∧
        bindSlots r.regex 0 ["p", "q", "s"] = .error (.missingSlot "__var2" "s") :=
    ⟨_, rfl, rfl, rfl⟩
  exact ⟨r, hr, hfound, hmissing, bindSlots_finds_named hr ["p", "q", "s"]⟩

end PathGlob
