-- SUMMARY: Every declaration is bound to the group that is opened for it, whatever groups the constraints open.
import Mathlib.Algebra.Order.BigOperators.Group.List
import PathGlob.Proofs.Pattern.Anchoring
import PathGlob.Proofs.Regex.CaptureNodes

/-!
# Slots

Each declaration opens a group and, inside it, the groups of its own regex. So the groups of a
pattern are numbered declaration by declaration, and the group of each is one more than the number
of groups that those before it open. The search for its name finds that group, since no two groups
of an expression share a name.
-/

namespace PathGlob

open Regex (Ast Resolves highest)

/-! ## Groups of shifted trees -/

namespace CaptureNode

/-- A capture with `k` more captures before it. -/
def shift (k : Nat) (x : CaptureNode Ast) : CaptureNode Ast := ⟨x.index + k, x.name, x.body.shift k⟩

end CaptureNode

namespace Regex

theorem Ast.kept_shift (k : Nat) (a : Ast) :
    (a.shift k).kept = a.kept.map (CaptureNode.shift k) := by
  induction a with
  | repetition min max greedy a ih =>
    rw [Ast.shift, kept, kept, ih]
    split <;> rfl
  | capture index name a ih => exact congrArg (_ :: ·) ih
  | group s a ih => exact ih
  | cat a b iha ihb | alt a b iha ihb =>
    rw [Ast.shift, kept, kept, iha, ihb, List.map_append]
  | _ => rfl

theorem highest_append (cs ds : List (Nat × Option String)) :
    highest (cs ++ ds) = max (highest cs) (highest ds) := by
  induction cs with
  | nil => exact (Nat.zero_max _).symm
  | cons c cs ih =>
    show max c.1 (highest (cs ++ ds)) = max (max c.1 (highest cs)) (highest ds)
    rw [ih, Nat.max_assoc]

theorem max_highest_shift (k : Nat) (xs : List (CaptureNode Ast)) :
    max k (highest ((xs.map (CaptureNode.shift k)).map CaptureNode.label)) =
      k + highest (xs.map CaptureNode.label) := by
  induction xs with
  | nil => exact Nat.max_zero k
  | cons x xs ih =>
    have hxs : highest ((x :: xs).map CaptureNode.label) =
        max x.index (highest (xs.map CaptureNode.label)) := rfl
    have hshifted : highest (((x :: xs).map (CaptureNode.shift k)).map CaptureNode.label) =
        max (x.index + k) (highest ((xs.map (CaptureNode.shift k)).map CaptureNode.label)) := rfl
    omega

end Regex

/-! ## Groups of declarations -/

namespace Declaration

/-- The number of groups that a declaration's constraint has when it is compiled alone. -/
def groupsAlone (d : Declaration) : Nat :=
  match d.constraint.map CompiledRegex.compile with
  | some (.ok r) => r.regex.groupCount - 1
  | _ => 0

/-- The groups of a declaration's regex are numbered from one on. -/
theorem map_fst_captures_body (d : Declaration) :
    d.body.captures.map Prod.fst = List.range' 1 d.groups := by
  unfold groups body
  cases h : Ast.parse d.source.toList with
  | none => rfl
  | some a => exact (Ast.parse_isNumbered h).1

theorem index_mem_kept (d : Declaration) {x : CaptureNode Ast} (hx : x ∈ d.body.kept) :
    1 ≤ x.index ∧ x.index ≤ d.groups := by
  have hlabel : x.label ∈ d.body.captures := d.body.kept_sublist.subset (List.mem_map_of_mem hx)
  have hindex : x.index ∈ List.range' 1 d.groups :=
    d.map_fst_captures_body ▸ List.mem_map_of_mem hlabel
  have := List.mem_range'_1.1 hindex
  omega

theorem highest_kept_le (d : Declaration) :
    highest (d.body.kept.map CaptureNode.label) ≤ d.groups := by
  refine Regex.highest_le_iff.2 fun c hc => ?_
  obtain ⟨x, hx, rfl⟩ := List.mem_map.1 hc
  exact (d.index_mem_kept hx).2

/-- Whether a declaration's regex repeats none of its groups zero times. -/
def KeepsGroups (d : Declaration) : Prop := d.body.kept.length = d.groups

instance (d : Declaration) : Decidable d.KeepsGroups := inferInstanceAs (Decidable (_ = _))

theorem KeepsGroups.highest_kept {d : Declaration} (h : d.KeepsGroups) :
    highest (d.body.kept.map CaptureNode.label) = d.groups := by
  have hkept : d.body.kept.map CaptureNode.label = d.body.captures :=
    d.body.kept_sublist.eq_of_length ((List.length_map _).trans h)
  refine Nat.le_antisymm d.highest_kept_le ?_
  rw [hkept]
  rcases Nat.eq_zero_or_pos d.groups with hzero | hpos
  · rw [hzero]
    exact Nat.zero_le _
  · have hlast : d.groups ∈ d.body.captures.map Prod.fst := by
      rw [map_fst_captures_body, List.mem_range'_1]
      omega
    obtain ⟨c, hc, heq⟩ := List.mem_map.1 hlast
    exact heq ▸ Regex.highest_le_iff.1 (Nat.le_refl _) c hc

end Declaration

namespace Pattern

/-- The group of the `n`-th declaration. -/
def groupOf (p : Pattern) (n : Nat) : Nat :=
  1 + n + ((p.declarations.take n).map Declaration.groups).sum

/-- The captures of some declarations, the first of which is the `n`-th, with `g` groups before
it. -/
def slotNodes (n g : Nat) : List Declaration → List (CaptureNode Ast)
  | [] => []
  | d :: ds => ⟨g + 1, some (slotName n), d.body.shift (g + 1)⟩ ::
      d.body.kept.map (CaptureNode.shift (g + 1)) ++ slotNodes (n + 1) (g + (d.groups + 1)) ds

theorem slotNodes_append (n g : Nat) (ds es : List Declaration) :
    slotNodes n g (ds ++ es) = slotNodes n g ds ++
      slotNodes (n + ds.length) (g + (ds.map fun d => d.groups + 1).sum) es := by
  induction ds generalizing n g with
  | nil => rfl
  | cons d ds ih =>
    rw [List.cons_append, slotNodes, slotNodes, ih, List.append_assoc, List.length_cons,
      List.map_cons, List.sum_cons, Nat.add_right_comm n 1, Nat.add_assoc n, Nat.add_assoc g]

theorem kept_toAst (p : Pattern) (n g : Nat) :
    (p.toAst n g).kept = slotNodes n g p.declarations := by
  induction p generalizing n g with
  | var d =>
    show _ :: (d.body.shift (g + 1)).kept = _ :: d.body.kept.map _ ++ []
    rw [List.append_nil, Ast.kept_shift]
  | seq p q ihp ihq =>
    rw [declarations, slotNodes_append, ← ihp, length_declarations, toAst]
    split
    · next hempty =>
      subst hempty
      exact (List.append_nil _).symm
    · exact congrArg _ (ihq _ _)
  | alt p q ihp ihq =>
    rw [declarations, slotNodes_append, ← ihp, length_declarations]
    exact congrArg _ (ihq _ _)
  | group p ih => exact ih n g
  | optional p ih => exact ih n g
  | _ => rfl

theorem index_mem_slotNodes {n g : Nat} {ds : List Declaration} {x : CaptureNode Ast}
    (hx : x ∈ slotNodes n g ds) : x.index ≤ g + (ds.map fun d => d.groups + 1).sum := by
  induction ds generalizing n g with
  | nil => cases hx
  | cons d ds ih =>
    rw [List.map_cons, List.sum_cons]
    rcases List.mem_append.1 hx with hx | hx
    · rcases List.mem_cons.1 hx with rfl | hx
      · show g + 1 ≤ _
        omega
      · obtain ⟨y, hy, rfl⟩ := List.mem_map.1 hx
        have hle := (d.index_mem_kept hy).2
        show y.index + (g + 1) ≤ _
        omega
    · have := ih hx
      omega

theorem sum_groups_add_one (ds : List Declaration) :
    (ds.map fun d => d.groups + 1).sum = ds.length + (ds.map Declaration.groups).sum := by
  rw [List.sum_map_add, List.map_const', List.sum_replicate_nat, Nat.mul_one, Nat.add_comm]

/-- The number of the last group. Only the last declaration can have groups in vain behind it. -/
theorem highest_slotNodes (ds : List Declaration) (d : Declaration) :
    highest ((slotNodes 0 0 (ds ++ [d])).map CaptureNode.label) =
      1 + ds.length + (ds.map Declaration.groups).sum +
        highest (d.body.kept.map CaptureNode.label) := by
  have hbefore : highest ((slotNodes 0 0 ds).map CaptureNode.label) ≤
      (ds.map fun d => d.groups + 1).sum := by
    refine Regex.highest_le_iff.2 fun c hc => ?_
    obtain ⟨x, hx, rfl⟩ := List.mem_map.1 hc
    have hle := index_mem_slotNodes hx
    rwa [Nat.zero_add] at hle
  have hlast (n g : Nat) : highest ((slotNodes n g [d]).map CaptureNode.label) =
      g + 1 + highest (d.body.kept.map CaptureNode.label) := by
    rw [← Regex.max_highest_shift]
    show highest (List.map _ (_ :: d.body.kept.map _ ++ [])) = _
    rw [List.append_nil]
    rfl
  rw [slotNodes_append, List.map_append, Regex.highest_append, hlast]
  rw [sum_groups_add_one] at hbefore ⊢
  omega

theorem mem_slotNodes_groupOf {p : Pattern} {n : Nat} {d : Declaration}
    (hd : p.declarations[n]? = some d) :
    (⟨p.groupOf n, some (slotName n), d.body.shift (p.groupOf n)⟩ : CaptureNode Ast) ∈
      slotNodes 0 0 p.declarations := by
  obtain ⟨hn, rfl⟩ := List.getElem?_eq_some_iff.1 hd
  have hlength : (p.declarations.take n).length = n := List.length_take_of_le (Nat.le_of_lt hn)
  have hgroup : 0 + ((p.declarations.take n).map fun d => d.groups + 1).sum + 1 = p.groupOf n := by
    rw [sum_groups_add_one, hlength, groupOf]
    omega
  have hsplit := slotNodes_append 0 0 (p.declarations.take n) (p.declarations.drop n)
  rw [List.take_append_drop, List.drop_eq_getElem_cons hn, hlength, Nat.zero_add n, slotNodes,
    hgroup] at hsplit
  rw [hsplit]
  exact List.mem_append_right _ List.mem_cons_self

theorem groupOf_lt_groupOf {p : Pattern} {i j : Nat} (h : i < j) : p.groupOf i < p.groupOf j := by
  have hsum : ((p.declarations.take i).map Declaration.groups).sum ≤
      ((p.declarations.take j).map Declaration.groups).sum :=
    ((List.take_sublist_take_left (Nat.le_of_lt h)).map _).sum_le_sum fun _ _ => Nat.zero_le _
  unfold groupOf
  omega

theorem groupOf_eq {p : Pattern} (hc : p.constraints = []) (n : Nat) : p.groupOf n = n + 1 := by
  have hzero : (p.declarations.take n).map Declaration.groups =
      (p.declarations.take n).map fun _ => 0 := by
    refine List.map_congr_left fun d hd => ?_
    exact groups_of_constraint_eq_none (constraint_eq_none hc d (List.mem_of_mem_take hd))
  rw [groupOf, hzero, List.map_const', List.sum_replicate_nat]
  omega

end Pattern

/-! ## Matchers -/

theorem bindSlots_eq_mapIdx {r : Regex Atom} {group : Nat → Nat} {ds : List Declaration} {n : Nat}
    (h : ∀ k < ds.length, r.groupNamed? (Pattern.slotName (n + k)) = some (group k)) :
    bindSlots r n (ds.map Declaration.name) =
      .ok (ds.mapIdx fun k d => ⟨d.name, group k⟩) := by
  induction ds generalizing n group with
  | nil => rfl
  | cons d ds ih =>
    have hfirst : r.groupNamed? (Pattern.slotName n) = some (group 0) :=
      h 0 (Nat.zero_lt_succ _)
    have hrest : bindSlots r (n + 1) (ds.map Declaration.name) =
        .ok (ds.mapIdx fun k d => ⟨d.name, group (k + 1)⟩) := by
      refine ih fun k hk => ?_
      rw [Nat.add_assoc, Nat.add_comm 1]
      exact h (k + 1) (Nat.succ_lt_succ hk)
    rw [List.map_cons, bindSlots, hfirst, hrest, List.mapIdx_cons]
    rfl

section

variable {text : List Char} {a : Ast} {f : Regex.Flags} {r : Regex Atom} {p : Pattern}
  (hresolve : a.resolve f = some r) (hkept : a.kept = Pattern.slotNodes 0 0 p.declarations)
include hresolve hkept

theorem bindSlots_of_resolve (ha : Ast.parse text = some a) :
    bindSlots r 0 p.variableNames =
      .ok (p.declarations.mapIdx fun n d => ⟨d.name, p.groupOf n⟩) := by
  refine bindSlots_eq_mapIdx fun n hn => ?_
  have hmem := hkept ▸ Pattern.mem_slotNodes_groupOf (List.getElem?_eq_getElem hn)
  rw [Nat.zero_add]
  exact Regex.groupNamed?_of_resolve hresolve (Ast.parse_isNumbered ha).2 hmem rfl

/-- All groups count but those that the last declaration's regex repeats zero times. -/
theorem groupCount_of_kept : r.groupCount = 1 + p.arity +
    (p.declarations.dropLast.map Declaration.groups).sum +
      (p.declarations.getLast?.map fun d =>
        highest (d.body.kept.map CaptureNode.label)).getD 0 := by
  rw [Regex.groupCount_of_resolve hresolve, hkept, ← p.length_declarations]
  rcases List.eq_nil_or_concat p.declarations with hnil | ⟨ds, d, hlast⟩
  · rw [hnil]
    rfl
  · rw [hlast, List.concat_eq_append, Pattern.highest_slotNodes, List.dropLast_concat,
      List.getLast?_concat, Option.map_some, Option.getD_some, List.length_append]
    simp only [List.length_singleton]
    omega

end

namespace Matcher

section

variable {text : String} {options : Options} {m : Matcher} {p : Pattern}

namespace Stages

variable (h : m.Stages text options p)
include h

theorem exists_compile {d : Declaration} {raw : String} (hd : d ∈ p.declarations)
    (hc : d.constraint = some raw) : ∃ r f, CompiledRegex.compile raw = .ok r ∧
      Ast.parse raw.toList = some d.body ∧ d.body.resolve f = some r.regex := by
  have hmem : (d.name, raw) ∈ p.constraints := List.mem_filterMap.2 ⟨d, hd, by rw [hc]; rfl⟩
  obtain ⟨r, hr⟩ := checkConstraints_eq_ok_iff.1 h.constraints _ hmem
  obtain ⟨a, ha, hresolve⟩ := Option.bind_eq_some_iff.1 (CompiledRegex.compile_eq_ok_iff.1 hr).2.1
  have hbody : d.body = a := by
    rw [Declaration.body, Declaration.source, hc, Option.getD_some, ha]
    rfl
  exact ⟨r, _, hr, hbody ▸ ha, hbody ▸ hresolve⟩

theorem groupsAlone_eq {d : Declaration} (hd : d ∈ p.declarations) :
    d.groupsAlone = highest (d.body.kept.map CaptureNode.label) := by
  cases hc : d.constraint with
  | none =>
    rw [Declaration.groupsAlone, hc, Pattern.body_of_constraint_eq_none hc]
    rfl
  | some raw =>
    obtain ⟨r, f, hr, -, hresolve⟩ := h.exists_compile hd hc
    rw [Declaration.groupsAlone, hc, Option.map_some, hr]
    show r.regex.groupCount - 1 = _
    rw [Regex.groupCount_of_resolve hresolve, Nat.add_sub_cancel]

theorem fits_of_not_turnsOn (hplain : ∀ d ∈ p.declarations, d.body.turnsOn .verbose = false) :
    ∀ d ∈ p.declarations, d.Fits := by
  intro d hd
  cases hc : d.constraint with
  | none => exact Pattern.fits_of_constraint_eq_none hc
  | some raw =>
    obtain ⟨-, -, -, hparse, -⟩ := h.exists_compile hd hc
    refine Ast.fits_of_not_turnsOn ?_ (hplain d hd)
    rw [Declaration.source, hc]
    exact hparse

variable (hfits : ∀ d ∈ p.declarations, d.Fits)
include hfits

/-- The groups of the source are those of the declarations. -/
theorem exists_tree : ∃ a f, Ast.parse p.source.toList = some a ∧
    a.resolve f = some m.regex.regex ∧ a.kept = Pattern.slotNodes 0 0 p.declarations := by
  obtain ⟨a, ha, hresolve⟩ := Option.bind_eq_some_iff.1 h.regex
  refine ⟨a, _, ha, hresolve, ?_⟩
  rw [h.spells.parse_source hfits ha]
  show [] ++ ((p.toAst 0 0).kept ++ []) = _
  rw [List.nil_append, List.append_nil, Pattern.kept_toAst]

theorem slots_eq_mapIdx :
    m.slots = p.declarations.mapIdx fun n d => ⟨d.name, p.groupOf n⟩ := by
  obtain ⟨a, f, ha, hresolve, hkept⟩ := h.exists_tree hfits
  exact Except.ok.inj (h.slots.symm.trans (bindSlots_of_resolve hresolve hkept ha))

theorem groupCount_eq : m.groupCount = 1 + p.arity +
    (p.declarations.dropLast.map Declaration.groups).sum +
      (p.declarations.getLast?.map Declaration.groupsAlone).getD 0 := by
  obtain ⟨a, f, -, hresolve, hkept⟩ := h.exists_tree hfits
  have halone : p.declarations.getLast?.map Declaration.groupsAlone =
      p.declarations.getLast?.map fun d => highest (d.body.kept.map CaptureNode.label) :=
    Option.map_congr fun d hd => h.groupsAlone_eq (List.mem_of_getLast? hd)
  rw [groupCount, groupCount_of_kept hresolve hkept, halone]

end Stages

/-- As long as no constraint switches verbose mode on, the groups of a matcher are numbered
declaration by declaration, and each declaration is bound to the first of its own. The last
declaration's groups count as they do when its constraint is compiled alone. -/
theorem compile_numbers_groups (hm : (Matcher.compile text options).outcome = .ok m)
    (hp : Pattern.Spells text p)
    (hplain : ∀ d ∈ p.declarations, d.body.turnsOn .verbose = false) :
    m.slots = p.declarations.mapIdx (fun n d =>
        ⟨d.name, 1 + n + ((p.declarations.take n).map Declaration.groups).sum⟩) ∧
      (m.slots.map Slot.group).Pairwise (· < ·) ∧
      m.groupCount = 1 + p.arity + (p.declarations.dropLast.map Declaration.groups).sum +
        (p.declarations.getLast?.map Declaration.groupsAlone).getD 0 ∧
      ∀ d ∈ p.declarations, d.groupsAlone ≤ d.groups ∧
        (d.KeepsGroups → d.groupsAlone = d.groups) := by
  have hstages := stages_of_spells hm hp
  have hfits := hstages.fits_of_not_turnsOn hplain
  have hslots := hstages.slots_eq_mapIdx hfits
  refine ⟨hslots, ?_, hstages.groupCount_eq hfits, fun d hd => ?_⟩
  · rw [hslots, List.pairwise_iff_getElem]
    intro i j hi hj hij
    simp only [List.getElem_map, List.getElem_mapIdx]
    exact Pattern.groupOf_lt_groupOf hij
  · rw [hstages.groupsAlone_eq hd]
    exact ⟨d.highest_kept_le, Declaration.KeepsGroups.highest_kept⟩

theorem compile_numbers_groups_nested :
    ∃ m p, (Matcher.compile "{a:(y)}-{b:x(z)}{c}").outcome = .ok m ∧
      Pattern.Spells "{a:(y)}-{b:x(z)}{c}" p ∧
      (∀ d ∈ p.declarations, d.body.turnsOn .verbose = false) ∧
      (∀ d ∈ p.declarations, d.KeepsGroups) ∧
      (m.slots = p.declarations.mapIdx (fun n d =>
          ⟨d.name, 1 + n + ((p.declarations.take n).map Declaration.groups).sum⟩) ∧
        (m.slots.map Slot.group).Pairwise (· < ·) ∧
        m.groupCount = 1 + p.arity + (p.declarations.dropLast.map Declaration.groups).sum +
          (p.declarations.getLast?.map Declaration.groupsAlone).getD 0 ∧
        ∀ d ∈ p.declarations, d.groupsAlone ≤ d.groups ∧
          (d.KeepsGroups → d.groupsAlone = d.groups)) := by
  obtain ⟨m, hm⟩ : ∃ m, (Matcher.compile "{a:(y)}-{b:x(z)}{c}").outcome = .ok m := ⟨_, rfl⟩
  obtain ⟨p, hp, hplain, hkeeps⟩ : ∃ p, (Pattern.parse "{a:(y)}-{b:x(z)}{c}").outcome = .ok p ∧
      (∀ d ∈ p.declarations, d.body.turnsOn .verbose = false) ∧
      (∀ d ∈ p.declarations, d.KeepsGroups) :=
    ⟨_, rfl, by decide +kernel, by decide +kernel⟩
  have hspells := Pattern.spells_of_parse hp
  exact ⟨m, p, hm, hspells, hplain, hkeeps, compile_numbers_groups hm hspells hplain⟩

/-- Alone, neither constraint has a group, since it repeats its only one zero times. The group of
`a` takes a number of the matcher all the same, so that `b` is bound to the third group. -/
theorem compile_not_numbers_groups_alone :
    ∃ m p, (Matcher.compile "{a:(y){0}}{b:(z){0}}").outcome = .ok m ∧
      Pattern.Spells "{a:(y){0}}{b:(z){0}}" p ∧
      (∀ d ∈ p.declarations, d.body.turnsOn .verbose = false) ∧
      m.groupCount ≠ 1 + p.arity + (p.declarations.map Declaration.groupsAlone).sum ∧
      m.slots ≠ p.declarations.mapIdx (fun n d =>
        ⟨d.name, 1 + n + ((p.declarations.take n).map Declaration.groupsAlone).sum⟩) := by
  have hgroups : Matcher.compiles "{a:(y){0}}{b:(z){0}}" (fun m =>
      m.groupCount = 4 ∧ m.slots = [⟨"a", 1⟩, ⟨"b", 3⟩]) = true := by decide +kernel
  obtain ⟨m, hm, hgroups⟩ := Matcher.exists_of_compiles hgroups
  obtain ⟨hcount, hslots⟩ := of_decide_eq_true hgroups
  obtain ⟨p, hp, hplain, halone⟩ : ∃ p, (Pattern.parse "{a:(y){0}}{b:(z){0}}").outcome = .ok p ∧
      (∀ d ∈ p.declarations, d.body.turnsOn .verbose = false) ∧
      (4 ≠ 1 + p.arity + (p.declarations.map Declaration.groupsAlone).sum ∧
        [⟨"a", 1⟩, ⟨"b", 3⟩] ≠ p.declarations.mapIdx (fun n d => Slot.mk d.name
          (1 + n + ((p.declarations.take n).map Declaration.groupsAlone).sum))) :=
    ⟨_, rfl, by decide +kernel, by decide +kernel⟩
  have hspells := Pattern.spells_of_parse hp
  rw [← hcount, ← hslots] at halone
  exact ⟨m, p, hm, hspells, hplain, halone⟩

end

end Matcher

end PathGlob
