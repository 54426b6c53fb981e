-- SUMMARY: Two patterns with a bar between them match as the first does, or else as the second.
import PathGlob.Proofs.Pattern.Bars
import PathGlob.Proofs.Regex.Completion

/-!
# Ordered choice

Alternatives are tried in their order unless they begin with something in common that leaves a
choice. Then that choice comes first. What the alternatives of the second pattern mark is raised by
the groups of the first, and so are the slots, so the values are the same.
-/

namespace PathGlob

open Regex (Ast Flags)

/-- The flags that the regex of a pattern is read under. -/
def Options.flags (o : Options) : Flags := { caseInsensitive := o.caseInsensitive }

namespace Pattern

variable {p q : Pattern}

/-! ## Order -/

/-- The expressions of the alternatives of a pattern. -/
def alternatives (f : Flags) (p : Pattern) : List (Regex Atom) :=
  (((p.toAst 0 0).alternatives f).map Prod.fst).getD []

/-- Whether the alternatives of a pattern begin with nothing in common that leaves a choice. -/
def isOrdered (f : Flags) (p : Pattern) : Bool := Regex.isDistinct (p.alternatives f)

/-! ## Slots -/

theorem groups_eq_sum (p : Pattern) :
    p.groups = p.arity + (p.declarations.map Declaration.groups).sum := by
  rw [groups, sum_groups_add_one, length_declarations]

theorem groupOf_le_groups {p : Pattern} {i : Nat} (hi : i < p.declarations.length) :
    p.groupOf i ≤ p.groups := by
  have hsum : ((p.declarations.take i).map Declaration.groups).sum ≤
      (p.declarations.map Declaration.groups).sum :=
    ((List.take_sublist i p.declarations).map _).sum_le_sum fun _ _ => Nat.zero_le _
  rw [groups_eq_sum, ← length_declarations, groupOf]
  omega

theorem groupOf_orElse_left {i : Nat} (hi : i < p.declarations.length) :
    (p.orElse q).groupOf i = p.groupOf i := by
  rw [groupOf, groupOf, declarations_orElse, List.take_append_of_le_length (Nat.le_of_lt hi)]

theorem groupOf_orElse_right (i : Nat) :
    (p.orElse q).groupOf (i + p.declarations.length) = q.groupOf i + p.groups := by
  rw [groupOf, groupOf, declarations_orElse, Nat.add_comm i, List.take_length_add_append,
    List.map_append, List.sum_append, groups_eq_sum, ← length_declarations]
  omega

end Pattern

def Slot.raise (k : Nat) (s : Slot) : Slot := { s with group := s.group + k }

def Captures.rename (g : Nat → Nat) (c : Captures) : Captures :=
  { c with marks := c.marks.map (Mark.rename g) }

namespace Matcher

section

variable {S S' : List Slot} {c : Captures} {text : List Char}

theorem paramsOf_concat_of_none {s : Slot} (h : c.group? s.group = none) :
    paramsOf (S ++ [s]) c text = paramsOf S c text := by
  rw [paramsOf, List.foldl_append, List.foldl_cons, List.foldl_nil, h]
  rfl

theorem paramsOf_concat_of_some {s : Slot} {mark : Mark} (h : c.group? s.group = some mark) :
    paramsOf (S ++ [s]) c text =
      (paramsOf S c text).insert s.name (.ofList (mark.slice text)) := by
  rw [paramsOf, List.foldl_append, List.foldl_cons, List.foldl_nil, h]
  rfl

theorem paramsOf_append_of_right (h : ∀ s ∈ S', c.group? s.group = none) :
    paramsOf (S ++ S') c text = paramsOf S c text := by
  induction S' using List.reverseRecOn with
  | nil => rw [List.append_nil]
  | append_singleton S' s ih =>
    obtain ⟨hS', hs⟩ := List.forall_mem_append.1 h
    rw [← List.append_assoc, paramsOf_concat_of_none (hs s (List.mem_singleton_self s)), ih hS']

theorem paramsOf_append_of_left (h : ∀ s ∈ S, c.group? s.group = none) :
    paramsOf (S ++ S') c text = paramsOf S' c text := by
  induction S' using List.reverseRecOn with
  | nil => exact (List.append_nil S).symm ▸ paramsOf_append_of_right (S := []) h
  | append_singleton S' s ih =>
    rw [← List.append_assoc]
    cases hs : c.group? s.group with
    | none => rw [paramsOf_concat_of_none hs, paramsOf_concat_of_none hs, ih]
    | some mark => rw [paramsOf_concat_of_some hs, paramsOf_concat_of_some hs, ih]

theorem group?_eq_none {index : Nat} (hindex : index ≠ 0)
    (h : ∀ mark ∈ c.marks, mark.group ≠ index) : c.group? index = none := by
  rw [Captures.group?, if_neg hindex]
  exact List.find?_eq_none.2 fun mark hmark => by simpa using h mark hmark

theorem group?_rename {index : Nat} (hindex : index ≠ 0) (k : Nat) :
    (c.rename (· + k)).group? (index + k) = (c.group? index).map (Mark.rename (· + k)) := by
  rw [Captures.group?, Captures.group?, if_neg hindex, if_neg (by omega), Captures.rename,
    List.find?_map]
  congr 2
  funext mark
  simp [Mark.rename]

theorem paramsOf_raise (k : Nat) (h : ∀ s ∈ S, s.group ≠ 0) :
    paramsOf (S.map (Slot.raise k)) (c.rename (· + k)) text = paramsOf S c text := by
  induction S using List.reverseRecOn with
  | nil => rfl
  | append_singleton S s ih =>
    obtain ⟨hS, hs⟩ := List.forall_mem_append.1 h
    have hgroup := group?_rename (c := c) (hs s (List.mem_singleton_self s)) k
    rw [List.map_append, List.map_singleton]
    cases hc : c.group? s.group with
    | none =>
      rw [hc] at hgroup
      rw [paramsOf_concat_of_none hc, paramsOf_concat_of_none (s := s.raise k) hgroup, ih hS]
    | some mark =>
      rw [hc] at hgroup
      rw [paramsOf_concat_of_some hc, paramsOf_concat_of_some (s := s.raise k) hgroup, ih hS]
      rfl

end

end Matcher

/-! ## Matchers -/

namespace Matcher.Stages

open Pattern

variable {text text' : String} {options : Options} {m m' n : Matcher} {p q : Pattern}

section

variable (h : m.Stages text options p) (hfits : ∀ d ∈ p.declarations, d.Fits)
include h hfits

theorem alternatives_eq : (p.toAst 0 0).alternatives options.flags =
    some (p.alternatives options.flags, options.flags) ∧
      m.regex.regex = Regex.anchored (.alternation (p.alternatives options.flags)) := by
  obtain ⟨a, ha, hr⟩ := Option.bind_eq_some_iff.1 h.regex
  obtain rfl := h.spells.parse_source hfits ha
  obtain ⟨g, hgroup, hanchored⟩ := Regex.Ast.resolve_anchored rfl hr
  obtain ⟨⟨ss, f⟩, hss, rfl⟩ := Option.map_eq_some_iff.1 hgroup
  obtain ⟨⟨rs, f'⟩, hrs, heq⟩ := Option.bind_eq_some_iff.1 hss
  obtain rfl := Ast.flags_of_alternatives (keepsFlags_toAst p 0 0) hrs
  cases heq
  have hrs' : (p.toAst 0 0).alternatives options.flags = some (rs, options.flags) := hrs
  rw [alternatives, hrs']
  exact ⟨rfl, hanchored⟩

/-- No two captures of a pattern have the same number. -/
theorem nodup_captures : ((p.toAst 0 0).captures.map Prod.fst).Nodup := by
  obtain ⟨a, ha, -⟩ := Option.bind_eq_some_iff.1 h.regex
  obtain rfl := h.spells.parse_source hfits ha
  have hcaptures : Ast.captures (.cat (.assertion .lineStart)
      (.cat (.group [] (p.toAst 0 0)) (.assertion .lineEnd))) = (p.toAst 0 0).captures := by
    rw [Ast.captures_cat, Ast.captures_cat]
    exact (List.nil_append _).trans (List.append_nil _)
  rw [← hcaptures, (Ast.parse_isNumbered ha).1]
  exact List.nodup_range'

theorem group_of_mem_marks {path : List Char} {c : Captures}
    (hc : m.regex.regex.find? path = some c) :
    ∀ mark ∈ c.marks, 1 ≤ mark.group ∧ mark.group ≤ p.groups := by
  intro mark hmark
  obtain ⟨a, f, ha, hresolve, hkept⟩ := h.exists_tree hfits
  obtain ⟨x, hx, hindex, -⟩ := Regex.exists_node_of_mem_marks (Regex.passageIn_of_find? hc).1 mark
    hmark
  obtain ⟨y, hy, hlabel, -⟩ := (Regex.resolved_of_resolve hresolve).origin x hx
  have hgroup : y.index = mark.group := by rw [← hindex]; exact (congrArg Prod.fst hlabel).symm
  have hle := index_mem_slotNodes (hkept ▸ hy)
  have hmem : y.index ∈ a.captures.map Prod.fst :=
    List.mem_map_of_mem (a.kept_sublist.subset (List.mem_map_of_mem hy))
  rw [(Ast.parse_isNumbered ha).1, List.mem_range'_1] at hmem
  rw [Nat.zero_add] at hle
  exact hgroup ▸ ⟨hmem.1, hle⟩

theorem group_of_mem_slots : ∀ s ∈ m.slots, 1 ≤ s.group ∧ s.group ≤ p.groups := by
  intro s hs
  rw [h.slots_eq_mapIdx hfits] at hs
  obtain ⟨i, hi, rfl⟩ := List.mem_mapIdx.1 hs
  refine ⟨?_, groupOf_le_groups hi⟩
  show 1 ≤ p.groupOf i
  rw [groupOf]
  omega

end

/-! ## Two patterns -/

section

variable (h : m.Stages text options p) (h' : m'.Stages text' options q)
  (hp : ∀ d ∈ p.declarations, d.Fits) (hq : ∀ d ∈ q.declarations, d.Fits)
  {path : List Char} {c : Captures}
include h h' hp hq

/-- A match of the first pattern leaves no marks for the slots of the second. -/
theorem group?_raise_eq_none (hc : m.regex.regex.find? path = some c) :
    ∀ s ∈ m'.slots.map (Slot.raise p.groups), c.group? s.group = none := by
  intro s hs
  obtain ⟨t, ht, rfl⟩ := List.mem_map.1 hs
  have hgroup := (h'.group_of_mem_slots hq t ht).1
  refine group?_eq_none (Nat.ne_of_gt (Nat.lt_of_lt_of_le hgroup (Nat.le_add_right _ _))) ?_
  intro mark hmark
  have hle := (h.group_of_mem_marks hp hc mark hmark).2
  show mark.group ≠ t.group + p.groups
  omega

/-- Raised, a match of the second pattern leaves no marks for the slots of the first. -/
theorem group?_rename_eq_none (hc : m'.regex.regex.find? path = some c) :
    ∀ s ∈ m.slots, (c.rename (· + p.groups)).group? s.group = none := by
  intro s hs
  have hgroup := h.group_of_mem_slots hp s hs
  refine group?_eq_none (Nat.ne_of_gt hgroup.1) ?_
  intro mark hmark
  obtain ⟨mark', hmark', rfl⟩ := List.mem_map.1 hmark
  have hle := (h'.group_of_mem_marks hq hc mark' hmark').1
  show mark'.group + p.groups ≠ s.group
  omega

variable (hn : n.Stages (text ++ "|" ++ text') options (p.orElse q))
include hn

theorem slots_orElse : n.slots = m.slots ++ m'.slots.map (Slot.raise p.groups) := by
  rw [hn.slots_eq_mapIdx (fits_orElse hp hq), h.slots_eq_mapIdx hp, h'.slots_eq_mapIdx hq,
    declarations_orElse, List.mapIdx_append]
  congr 1
  · refine List.mapIdx_eq_mapIdx_iff.2 fun i hi => ?_
    rw [groupOf_orElse_left hi]
  · refine List.ext_getElem? fun i => ?_
    simp only [List.getElem?_map, List.getElem?_mapIdx, Option.map_map, groupOf_orElse_right]
    rfl

/-- The alternatives of the second pattern are the same after the first, up to their groups. -/
theorem exists_alternatives_orElse : ∃ rs : List (Regex Atom),
    (p.orElse q).alternatives options.flags = p.alternatives options.flags ++ rs ∧
      rs.map (Regex.regroup id) =
        (q.alternatives options.flags).map (Regex.regroup (· + p.groups)) := by
  have hfirst := (h.alternatives_eq hp).1
  have hsecond := (h'.alternatives_eq hq).1
  have hboth := (hn.alternatives_eq (fits_orElse hp hq)).1
  have hapart := Regex.apart_of_nodup (h'.nodup_captures hq) (add_left_injective p.groups)
  have hapart' := Regex.apart_of_nodup (hn.nodup_captures (fits_orElse hp hq))
    Function.injective_id
  have hsubset : (q.toAst (0 + p.arity) (0 + p.groups)).captures ⊆
      ((p.orElse q).toAst 0 0).captures := by
    rw [captures_orElse]
    exact List.subset_append_right _ _
  -- Renamed alike, the tree of the second pattern is the same by itself and after the first.
  have htree : (q.toAst (0 + p.arity) (0 + p.groups)).regroup id =
      (q.toAst 0 0).regroup (· + p.groups) := regroup_toAst q _ 0 0 p.groups id
  obtain ⟨rs, hrs, hmap⟩ := Ast.exists_alternatives_of_regroup_eq hapart (List.Subset.refl _)
    hapart' hsubset htree hsecond
  have hboth' := h.spells.alternatives_orElse hfirst hrs
  obtain ⟨happend, -⟩ := Prod.mk.inj (Option.some.inj (hboth.symm.trans hboth'))
  exact ⟨rs, happend, hmap⟩

/-- Which of the alternatives match does not depend on what they share. -/
theorem isMatch_orElse (path : String) :
    (n.run path).isMatch = ((m.run path).isMatch || (m'.run path).isMatch) := by
  obtain ⟨rs, happend, hmap⟩ := exists_alternatives_orElse h h' hp hq hn
  have hsecond := congrArg
    (fun rs => (List.findSome? (Regex.completion? · path.toList 0) rs).isSome) hmap
  simp only [Regex.findSome?_completion?_regroup, Option.isSome_map] at hsecond
  simp only [isMatch_run, isMatch, ← Regex.isSome_find?, (h.alternatives_eq hp).2,
    (h'.alternatives_eq hq).2, (hn.alternatives_eq (fits_orElse hp hq)).2, happend,
    Regex.find?_anchored_eq_completion?, Option.isSome_map, Regex.isSome_completion?_alternation,
    List.findSome?_append, Option.isSome_or, hsecond]

variable (hfirst : p.isOrdered options.flags = true) (hsecond : q.isOrdered options.flags = true)
  (hboth : (p.orElse q).isOrdered options.flags = true)
include hfirst hsecond hboth

theorem find?_orElse (path : List Char) : n.regex.regex.find? path =
    (m.regex.regex.find? path).or
      ((m'.regex.regex.find? path).map (Captures.rename (· + p.groups))) := by
  obtain ⟨rs, happend, hmap⟩ := exists_alternatives_orElse h h' hp hq hn
  have hrest := congrArg (List.findSome? (Regex.completion? · path 0)) hmap
  rw [Regex.findSome?_completion?_regroup, Regex.findSome?_completion?_regroup] at hrest
  simp only [Mark.rename_id, Prod.mk.eta, Option.map_id'] at hrest
  rw [(h.alternatives_eq hp).2, (h'.alternatives_eq hq).2,
    (hn.alternatives_eq (fits_orElse hp hq)).2, Regex.find?_anchored_eq_completion?,
    Regex.find?_anchored_eq_completion?, Regex.find?_anchored_eq_completion?,
    Regex.completion?_alternation hfirst, Regex.completion?_alternation hsecond,
    Regex.completion?_alternation hboth, happend, List.findSome?_append, hrest]
  cases (p.alternatives options.flags).findSome? (Regex.completion? · path 0) with
  | some e => rfl
  | none =>
    simp only [Option.none_or, Option.map_map, Option.map_none]
    rfl

theorem run_orElse (path : String) :
    n.run path = if (m.run path).isMatch then m.run path else m'.run path := by
  have hfind := find?_orElse h h' hp hq hn hfirst hsecond hboth path.toList
  rw [run, run, run, hfind, slots_orElse h h' hp hq hn]
  cases hc : m.regex.regex.find? path.toList with
  | some c =>
    have hnone := group?_raise_eq_none h h' hp hq hc
    exact congrArg MatchResult.matched (paramsOf_append_of_right hnone)
  | none =>
    cases hc' : m'.regex.regex.find? path.toList with
    | none => rfl
    | some c =>
      have hnone := group?_rename_eq_none h h' hp hq hc'
      have hslot : ∀ s ∈ m'.slots, s.group ≠ 0 := fun s hs =>
        Nat.ne_of_gt (h'.group_of_mem_slots hq s hs).1
      exact congrArg MatchResult.matched
        ((paramsOf_append_of_left hnone).trans (paramsOf_raise p.groups hslot))

end

end Matcher.Stages

/-! ## Bars between patterns -/

section

variable {text text' : String} {options : Options} {m m' n : Matcher} {p q : Pattern}

/-- Two patterns with a bar between them match where one of them does. If none of the three begins
its alternatives with something in common that leaves a choice, they match as the first does, or
else as the second. -/
theorem run_bar_prefers_first (hm : (Matcher.compile text options).outcome = .ok m)
    (hm' : (Matcher.compile text' options).outcome = .ok m')
    (hn : (Matcher.compile (text ++ "|" ++ text') options).outcome = .ok n)
    (hp : Pattern.Spells text p) (hq : Pattern.Spells text' q)
    (hplain : ∀ d ∈ p.declarations ++ q.declarations, d.body.turnsOn .verbose = false)
    (path : String) :
    (n.run path).isMatch = ((m.run path).isMatch || (m'.run path).isMatch) ∧
      (p.isOrdered options.flags = true → q.isOrdered options.flags = true →
        (p.orElse q).isOrdered options.flags = true →
          n.run path = if (m.run path).isMatch then m.run path else m'.run path) := by
  have h := Matcher.stages_of_spells hm hp
  have h' := Matcher.stages_of_spells hm' hq
  have hspells : Pattern.Spells (text ++ "|" ++ text') (p.orElse q) := by
    have hderives := Pattern.Derives.orElse hp hq
    rw [Pattern.Spells, String.toList_append, String.toList_append, List.append_assoc]
    exact hderives
  have hr := Matcher.stages_of_spells hn hspells
  obtain ⟨hplainp, hplainq⟩ := List.forall_mem_append.1 hplain
  have hfitsp := h.fits_of_not_turnsOn hplainp
  have hfitsq := h'.fits_of_not_turnsOn hplainq
  exact ⟨Matcher.Stages.isMatch_orElse h h' hfitsp hfitsq hr path,
    fun hfirst hsecond hboth =>
      Matcher.Stages.run_orElse h h' hfitsp hfitsq hr hfirst hsecond hboth path⟩

theorem run_bar_prefers_first_versions : ∃ m m' n p q,
    (Matcher.compile "v{n:[0-9]+}").outcome = .ok m ∧
      (Matcher.compile "v{n}-{tag}").outcome = .ok m' ∧
      (Matcher.compile ("v{n:[0-9]+}" ++ "|" ++ "v{n}-{tag}")).outcome = .ok n ∧
      Pattern.Spells "v{n:[0-9]+}" p ∧ Pattern.Spells "v{n}-{tag}" q ∧
      (∀ d ∈ p.declarations ++ q.declarations, d.body.turnsOn .verbose = false) ∧
      p.isOrdered ({} : Options).flags = true ∧ q.isOrdered ({} : Options).flags = true ∧
      (p.orElse q).isOrdered ({} : Options).flags = true ∧
      ((n.run "v1-b").isMatch = ((m.run "v1-b").isMatch || (m'.run "v1-b").isMatch) ∧
        (p.isOrdered ({} : Options).flags = true → q.isOrdered ({} : Options).flags = true →
          (p.orElse q).isOrdered ({} : Options).flags = true →
            n.run "v1-b" = if (m.run "v1-b").isMatch then m.run "v1-b" else m'.run "v1-b")) := by
  obtain ⟨m, hm, -⟩ := Matcher.exists_of_compiles
    (show Matcher.compiles "v{n:[0-9]+}" (fun _ => true) = true by decide +kernel)
  obtain ⟨m', hm', -⟩ := Matcher.exists_of_compiles
    (show Matcher.compiles "v{n}-{tag}" (fun _ => true) = true by decide +kernel)
  obtain ⟨n, hn, -⟩ := Matcher.exists_of_compiles
    (show Matcher.compiles ("v{n:[0-9]+}" ++ "|" ++ "v{n}-{tag}") (fun _ => true) = true by
      decide +kernel)
  obtain ⟨p, q, hp, hq, hplain, hfirst, hsecond, hboth⟩ :
      ∃ p q, (Pattern.parse "v{n:[0-9]+}").outcome = .ok p ∧
        (Pattern.parse "v{n}-{tag}").outcome = .ok q ∧
        (∀ d ∈ p.declarations ++ q.declarations, d.body.turnsOn .verbose = false) ∧
        p.isOrdered ({} : Options).flags = true ∧ q.isOrdered ({} : Options).flags = true ∧
        (p.orElse q).isOrdered ({} : Options).flags = true :=
    ⟨_, _, rfl, rfl, by decide +kernel, by decide +kernel, by decide +kernel, by decide +kernel⟩
  have hpspells := Pattern.spells_of_parse hp
  have hqspells := Pattern.spells_of_parse hq
  exact ⟨m, m', n, p, q, hm, hm', hn, hpspells, hqspells, hplain, hfirst, hsecond, hboth,
    run_bar_prefers_first hm hm' hn hpspells hqspells hplain "v1-b"⟩

/-- Both patterns begin with a wildcard, which takes `1a2` before either is chosen. By itself the
first pattern matches as well. -/
theorem run_bar_not_prefers_first : ∃ m m' n p q,
    (Matcher.compile "*a{x}").outcome = .ok m ∧ (Matcher.compile "*b{y}").outcome = .ok m' ∧
      (Matcher.compile ("*a{x}" ++ "|" ++ "*b{y}")).outcome = .ok n ∧
      Pattern.Spells "*a{x}" p ∧ Pattern.Spells "*b{y}" q ∧
      (∀ d ∈ p.declarations ++ q.declarations, d.body.turnsOn .verbose = false) ∧
      m.run "1a2b3" = .matched [("x", "2b3")] ∧ n.run "1a2b3" = .matched [("y", "3")] ∧
      n.run "1a2b3" ≠ if (m.run "1a2b3").isMatch then m.run "1a2b3" else m'.run "1a2b3" := by
  have hfirst : Matcher.compiles "*a{x}" (fun m =>
      m.run "1a2b3" = .matched [("x", "2b3")]) = true := by decide +kernel
  have hboth : Matcher.compiles ("*a{x}" ++ "|" ++ "*b{y}") (fun m =>
      m.run "1a2b3" = .matched [("y", "3")]) = true := by decide +kernel
  obtain ⟨m, hm, hx⟩ := Matcher.exists_of_compiles hfirst
  obtain ⟨m', hm'⟩ : ∃ m, (Matcher.compile "*b{y}").outcome = .ok m := ⟨_, rfl⟩
  obtain ⟨n, hn, hy⟩ := Matcher.exists_of_compiles hboth
  obtain ⟨p, q, hp, hq, hplain⟩ : ∃ p q, (Pattern.parse "*a{x}").outcome = .ok p ∧
      (Pattern.parse "*b{y}").outcome = .ok q ∧
      ∀ d ∈ p.declarations ++ q.declarations, d.body.turnsOn .verbose = false :=
    ⟨_, _, rfl, rfl, by decide +kernel⟩
  have hx := of_decide_eq_true hx
  have hy := of_decide_eq_true hy
  refine ⟨m, m', n, p, q, hm, hm', hn, Pattern.spells_of_parse hp, Pattern.spells_of_parse hq,
    hplain, hx, hy, ?_⟩
  rw [hx, hy]
  simp [MatchResult.isMatch]

end

end PathGlob
