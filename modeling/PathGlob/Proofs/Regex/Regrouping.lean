-- SUMMARY: Normal form and resolving do not depend on the numbers and names of groups.
import Mathlib.Data.List.SplitBy
import PathGlob.Proofs.Regex.CaptureNodes
import PathGlob.Proofs.Regex.Renaming

/-!
# Regrouping

Where normal form compares expressions it compares their groups too. So renaming groups may change
what alternatives share, unless it tells apart the groups that were different before. Within one
tree it does, since no two captures of a tree have the same number.
-/

namespace PathGlob

namespace Regex

/-! ## Comparing -/

/-- Whether all captures of an expression are among some. -/
def Within (cs : List (Nat × Option String)) (r : Regex Atom) : Prop := r.captures ⊆ cs

/-- Whether some captures have different groups after renaming too. -/
def Apart (g : Nat → Nat) (cs : List (Nat × Option String)) : Prop :=
  ∀ c ∈ cs, ∀ d ∈ cs, g c.1 = g d.1 → c = d

variable {g : Nat → Nat} {cs : List (Nat × Option String)} {r s : Regex Atom}
  {rs : List (Regex Atom)}

theorem apart_of_nodup (hcs : (cs.map Prod.fst).Nodup) (hg : Function.Injective g) :
    Apart g cs :=
  fun _ hc _ hd heq => List.inj_on_of_nodup_map hcs hc hd (hg heq)

theorem hereditary_within (cs : List (Nat × Option String)) : Hereditary (Within cs) where
  empty := List.nil_subset cs
  never := List.nil_subset cs
  joined _ _ := List.nil_subset cs
  cat _ _ := List.append_subset
  alt _ _ := List.append_subset

theorem eq_of_regroup_eq (hg : Apart g cs) (hr : Within cs r) (hs : Within cs s)
    (h : r.regroup g = s.regroup g) : r = s := by
  induction r generalizing s with
  | empty | atom _ => cases s <;> cases h; rfl
  | capture index name r ih =>
    cases s with
    | capture index' name' s =>
      injection h with hindex _ hbody
      obtain ⟨hrlabel, hrbody⟩ := List.cons_subset.1 hr
      obtain ⟨hslabel, hsbody⟩ := List.cons_subset.1 hs
      cases hg _ hrlabel _ hslabel hindex
      rw [ih hrbody hsbody hbody]
    | _ => cases h
  | cat r r' ihr ihr' =>
    cases s with
    | cat s s' =>
      injection h with hleft hright
      obtain ⟨hr, hr'⟩ := List.append_subset.1 hr
      obtain ⟨hs, hs'⟩ := List.append_subset.1 hs
      rw [ihr hr hs hleft, ihr' hr' hs' hright]
    | _ => cases h
  | alt r r' ihr ihr' =>
    cases s with
    | alt s s' =>
      injection h with hleft hright
      obtain ⟨hr, hr'⟩ := List.append_subset.1 hr
      obtain ⟨hs, hs'⟩ := List.append_subset.1 hs
      rw [ihr hr hs hleft, ihr' hr' hs' hright]
    | _ => cases h
  | repetition min max greedy r ih =>
    cases s with
    | repetition min' max' greedy' s =>
      injection h with hmin hmax hgreedy hbody
      rw [hmin, hmax, hgreedy, ih (s := s) hr hs hbody]
    | _ => cases h

theorem eq_of_map_regroup_eq (hg : Apart g cs) {ss : List (Regex Atom)}
    (hrs : ∀ r ∈ rs, Within cs r) (hss : ∀ s ∈ ss, Within cs s)
    (h : rs.map (regroup g) = ss.map (regroup g)) : rs = ss := by
  induction rs generalizing ss with
  | nil => exact (List.map_eq_nil_iff.1 h.symm).symm
  | cons r rs ih =>
    obtain ⟨s, ss, rfl, hs, hmap⟩ := List.map_eq_cons_iff.1 h.symm
    obtain ⟨hr, hrs⟩ := List.forall_mem_cons.1 hrs
    obtain ⟨hs', hss⟩ := List.forall_mem_cons.1 hss
    rw [eq_of_regroup_eq hg hr hs' hs.symm, ih hrs hss hmap.symm]

/-! ## Parts -/

section

variable (g) (r s rs)

theorem set?_regroup : (r.regroup g).set? = r.set? := by
  cases r <;> rfl

theorem isSingleChar_regroup : (r.regroup g).isSingleChar = r.isSingleChar := by
  rw [isSingleChar, set?_regroup, isSingleChar]

theorem parts_regroup : (r.regroup g).parts = r.parts.map (regroup g) := by
  induction r with
  | cat r s _ ih => exact congrArg _ ih
  | _ => rfl

theorem append_regroup : (r.append s).regroup g = (r.regroup g).append (s.regroup g) := by
  induction r with
  | empty => rfl
  | cat r r' _ ih => exact congrArg _ ih
  | _ => cases s <;> rfl

theorem ofParts_regroup : (ofParts rs).regroup g = ofParts (rs.map (regroup g)) := by
  induction rs with
  | nil => rfl
  | cons r rs ih =>
    cases rs with
    | nil => rfl
    | cons s rs => exact congrArg _ ih

theorem branches_regroup : (r.regroup g).branches = r.branches.map (regroup g) := by
  induction r with
  | alt r s _ ih => exact congrArg _ ih
  | _ => rfl

theorem ofBranches_regroup : (ofBranches rs).regroup g = ofBranches (rs.map (regroup g)) := by
  induction rs with
  | nil => rfl
  | cons r rs ih =>
    cases rs with
    | nil => rfl
    | cons s rs => exact congrArg _ ih

theorem flatMap_branches_regroup :
    (rs.map (regroup g)).flatMap branches = (rs.flatMap branches).map (regroup g) := by
  simp [List.flatMap_map, List.map_flatMap, branches_regroup]

theorem joined?_regroup : joined? (rs.map (regroup g)) = joined? rs := by
  have hmap : (rs.map (regroup g)).mapM set? = rs.mapM set? := by
    rw [List.mapM_map]
    congr 1
    funext r
    exact set?_regroup g r
  simp [joined?, hmap, Function.comp_def, isSingleChar_regroup]

theorem choice_regroup : (choice rs).regroup g = choice (rs.map (regroup g)) := by
  rw [choice, choice, joined?_regroup]
  cases joined? rs with
  | none => exact ofBranches_regroup g rs
  | some s => rfl

theorem isStill_regroup : (r.regroup g).isStill = r.isStill := by
  induction r with
  | empty => rfl
  | atom a => cases a <;> rfl
  | capture _ _ _ ih | repetition _ _ _ _ ih => exact ih
  | cat _ _ ihr ihs | alt _ _ ihr ihs => simp only [regroup, isStill, ihr, ihs]

theorem repeated_regroup (min : Nat) (max : Option Nat) (greedy : Bool) :
    (repeated min max greedy r).regroup g = repeated min max greedy (r.regroup g) := by
  unfold repeated
  rw [isStill_regroup]
  cases r.isStill with
  | true =>
    simp only [if_true]
    split
    · rfl
    · split <;> rfl
  | false =>
    simp only [Bool.false_eq_true, if_false]
    split
    · rfl
    · split <;> rfl

end

/-! ## Shared beginnings -/

section

variable {α β : Type} [DecidableEq α] [DecidableEq β] {f : α → β} {P : α → Prop}
  (hf : ∀ a b, P a → P b → f a = f b → a = b)
include hf

theorem commonPrefix_map {as bs : List α} (has : ∀ a ∈ as, P a) (hbs : ∀ b ∈ bs, P b) :
    commonPrefix (as.map f) (bs.map f) = (commonPrefix as bs).map f := by
  induction as generalizing bs with
  | nil => rfl
  | cons a as ih =>
    cases bs with
    | nil => rfl
    | cons b bs =>
      obtain ⟨ha, has⟩ := List.forall_mem_cons.1 has
      obtain ⟨hb, hbs⟩ := List.forall_mem_cons.1 hbs
      by_cases hab : a = b
      · simp [commonPrefix, hab, ih has hbs]
      · have hfab : f a ≠ f b := fun h => hab (hf a b ha hb h)
        simp [commonPrefix, hab, hfab]

theorem foldl_commonPrefix_map {as : List α} {bss : List (List α)} (has : ∀ a ∈ as, P a)
    (hbss : ∀ bs ∈ bss, ∀ b ∈ bs, P b) :
    (bss.map (List.map f)).foldl commonPrefix (as.map f) =
      (bss.foldl commonPrefix as).map f := by
  induction bss generalizing as with
  | nil => rfl
  | cons bs bss ih =>
    obtain ⟨hbs, hbss⟩ := List.forall_mem_cons.1 hbss
    rw [List.map_cons, List.foldl_cons, List.foldl_cons, commonPrefix_map hf has hbs]
    exact ih (fun a ha => has a ((commonPrefix_prefix_left as bs).subset ha)) hbss

end

theorem sharedPieces_map {f : List (Regex Atom) → List (Regex Atom)}
    {P : List (Regex Atom) → Prop} (hf : ∀ as bs, P as → P bs → f as = f bs → as = bs)
    {pss : List (List (List (Regex Atom)))} (hpss : ∀ ps ∈ pss, ∀ piece ∈ ps, P piece) :
    sharedPieces (pss.map (List.map f)) = (sharedPieces pss).map f := by
  cases pss with
  | nil => rfl
  | cons ps pss =>
    obtain ⟨hps, hpss⟩ := List.forall_mem_cons.1 hpss
    exact foldl_commonPrefix_map hf hps hpss

theorem splitBy_map {α β : Type} {p : α → α → Bool} {q : β → β → Bool} {f : α → β}
    (h : ∀ a b, q (f a) (f b) = p a b) (as : List α) :
    (as.map f).splitBy q = (as.splitBy p).map (List.map f) := by
  rw [List.splitBy_eq_iff]
  refine ⟨?_, ?_, ?_, ?_⟩
  · rw [← List.map_flatten, List.flatten_splitBy]
  · simp
  · intro bs hbs
    obtain ⟨cs, hcs, rfl⟩ := List.mem_map.1 hbs
    rw [List.isChain_map]
    simpa only [h] using List.isChain_of_mem_splitBy hcs
  · rw [List.isChain_map]
    refine (List.isChain_getLast_head_splitBy p as).imp fun bs cs hbound => ?_
    obtain ⟨hb, hc, hsplit⟩ := hbound
    refine ⟨by simpa using hb, by simpa using hc, ?_⟩
    rw [List.getLast_map, List.head_map, h, hsplit]

theorem pieces_regroup (g : Nat → Nat) (r : Regex Atom) :
    (r.regroup g).pieces = r.pieces.map (List.map (regroup g)) := by
  rw [pieces, parts_regroup]
  exact splitBy_map (fun a b => by simp only [isSingleChar_regroup]) r.parts

theorem ofPieces_regroup (g : Nat → Nat) (ps : List (List (Regex Atom))) :
    (ofPieces ps).regroup g = ofPieces (ps.map (List.map (regroup g))) := by
  rw [ofPieces, ofParts_regroup, List.map_flatten]
  rfl

section

variable (hg : Apart g cs) (hrs : ∀ r ∈ rs, Within cs r)
include hg hrs

theorem shared_regroup : shared (rs.map (regroup g)) = (shared rs).map (List.map (regroup g)) := by
  have hwithin : ∀ ps ∈ (rs.flatMap branches).map pieces, ∀ piece ∈ ps, ∀ r ∈ piece,
      Within cs r := by
    intro ps hps piece hpiece r hr
    obtain ⟨s, hs, rfl⟩ := List.mem_map.1 hps
    refine (hereditary_within cs).parts ((hereditary_within cs).flatMap_branches hrs s hs) r ?_
    rw [← flatten_pieces]
    exact List.mem_flatten.2 ⟨piece, hpiece, hr⟩
  have hpieces : ((rs.flatMap branches).map (regroup g)).map pieces =
      ((rs.flatMap branches).map pieces).map (List.map (List.map (regroup g))) := by
    simp [List.map_map, Function.comp_def, pieces_regroup]
  have hlong : (((rs.flatMap branches).map pieces).map (List.map (List.map (regroup g)))).all
      (fun ps => 1 < ps.length) =
        ((rs.flatMap branches).map pieces).all fun ps => 1 < ps.length := by
    simp only [List.all_map, Function.comp_def, List.length_map]
  rw [shared, shared, List.length_map, flatMap_branches_regroup, hpieces, hlong]
  split
  · rfl
  · split
    · exact sharedPieces_map (fun as bs => eq_of_map_regroup_eq hg) hwithin
    · rfl

theorem rests_regroup : rests (rs.map (regroup g)) = (rests rs).map (regroup g) := by
  simp [rests, flatMap_branches_regroup, shared_regroup hg hrs, List.map_map, Function.comp_def,
    pieces_regroup, ofPieces_regroup, List.map_drop]

/-- Renaming groups apart changes an alternation no further. -/
theorem alternation_regroup : alternation (rs.map (regroup g)) = (alternation rs).regroup g := by
  by_cases hlength : rs.length = 1
  · obtain ⟨r, rfl⟩ := List.length_eq_one_iff.1 hlength
    rfl
  · rw [alternation_eq hlength, alternation_eq (by simpa using hlength), shared_regroup hg hrs,
      rests_regroup hg hrs, flatMap_branches_regroup, flatMap_branches_regroup, ← choice_regroup,
      ← choice_regroup, ← ofPieces_regroup, ← append_regroup, List.isEmpty_map]
    split <;> rfl

end

/-! ## Resolving -/

/-- Renames the groups of a tree, which lose their names. -/
def Ast.regroup (g : Nat → Nat) : Ast → Ast
  | .repetition min max greedy a => .repetition min max greedy (a.regroup g)
  | .capture index _ a => .capture (g index) none (a.regroup g)
  | .group s a => .group s (a.regroup g)
  | .cat a b => .cat (a.regroup g) (b.regroup g)
  | .alt a b => .alt (a.regroup g) (b.regroup g)
  | a => a

namespace Ast

variable {a : Ast} {f f' : Flags}

/-- The captures of the alternatives of a tree are captures of the tree. -/
theorem within_alternatives (h : a.alternatives f = some (rs, f')) (ha : a.captures ⊆ cs) :
    ∀ r ∈ rs, Within cs r := by
  intro r hr c hc
  rw [← map_label_nodes] at hc
  obtain ⟨x, hx, rfl⟩ := List.mem_map.1 hc
  obtain ⟨y, hy, hlabel, -⟩ := (resolved_nodes h).origin x (List.mem_flatMap.2 ⟨r, hr, hx⟩)
  rw [hlabel]
  exact ha (a.kept_sublist.subset (List.mem_map_of_mem hy))

theorem regroup_literal? {l : Literal} (h : f.literal? l = some r) : r.regroup g = r := by
  unfold Flags.literal? at h
  split at h
  · cases h
    split <;> rfl
  · cases h

/-- Renaming groups apart renames them in the alternatives of a tree. -/
theorem alternatives_regroup (hg : Apart g cs) (ha : a.captures ⊆ cs) (f : Flags) :
    (a.regroup g).alternatives f =
      (a.alternatives f).map fun x => (x.1.map (Regex.regroup g), x.2) := by
  have halternation {b : Ast} {f f' : Flags} {rs : List (Regex Atom)}
      (h : b.alternatives f = some (rs, f')) (hb : b.captures ⊆ cs) :
      alternation (rs.map (Regex.regroup g)) = (alternation rs).regroup g :=
    alternation_regroup hg (within_alternatives h hb)
  induction a generalizing f with
  | empty | settings _ | assertion _ => rfl
  | literal l =>
    cases hl : f.literal? l with
    | none => simp [regroup, alternatives, hl]
    | some r => simp [regroup, alternatives, hl, regroup_literal? hl]
  | dot | shorthand _ _ | property _ _ =>
    simp [regroup, alternatives, Option.map_map, Function.comp_def, Flags.oneOf, ofSet,
      Regex.regroup]
  | bracket negated s =>
    cases hs : s.resolve f with
    | none => simp [regroup, alternatives, hs]
    | some s =>
      cases hn : f.negate? negated (f.fold s) <;>
        simp [regroup, alternatives, hs, hn, Flags.oneOf, ofSet, Regex.regroup]
  | repetition min max greedy a ih =>
    cases h : a.alternatives f with
    | none => simp [regroup, alternatives, ih ha, h]
    | some x => simp [regroup, alternatives, ih ha, h, halternation h ha, repeated_regroup]
  | capture index name a ih =>
    obtain ⟨-, ha⟩ := List.cons_subset.1 ha
    cases h : a.alternatives f with
    | none => simp [regroup, alternatives, ih ha, h]
    | some x => simp [regroup, alternatives, ih ha, h, halternation h ha, Regex.regroup]
  | group s a ih =>
    cases h : a.alternatives (f.update s) with
    | none => simp [regroup, alternatives, ih ha, h]
    | some x => simp [regroup, alternatives, ih ha, h, halternation h ha]
  | cat a b iha ihb =>
    rw [captures_cat] at ha
    obtain ⟨ha, hb⟩ := List.append_subset.1 ha
    cases h : a.alternatives f with
    | none => simp [regroup, alternatives, iha ha, h]
    | some x =>
      cases h' : b.alternatives x.2 with
      | none => simp [regroup, alternatives, iha ha, ihb hb, h, h']
      | some y =>
        simp [regroup, alternatives, iha ha, ihb hb, h, h', halternation h ha, halternation h' hb,
          append_regroup]
  | alt a b iha ihb =>
    rw [captures_alt] at ha
    obtain ⟨ha, hb⟩ := List.append_subset.1 ha
    cases h : a.alternatives f with
    | none => simp [regroup, alternatives, iha ha, h]
    | some x =>
      cases h' : b.alternatives x.2 with
      | none => simp [regroup, alternatives, iha ha, ihb hb, h, h']
      | some y => simp [regroup, alternatives, iha ha, ihb hb, h, h', halternation h ha]

/-- Trees that are the same up to their groups have the same alternatives up to their groups. -/
theorem exists_alternatives_of_regroup_eq {b : Ast} {g' : Nat → Nat}
    {ds : List (Nat × Option String)} (hg : Apart g cs) (ha : a.captures ⊆ cs) (hg' : Apart g' ds)
    (hb : b.captures ⊆ ds) (hsame : b.regroup g' = a.regroup g)
    (hrs : a.alternatives f = some (rs, f')) :
    ∃ ss, b.alternatives f = some (ss, f') ∧
      ss.map (Regex.regroup g') = rs.map (Regex.regroup g) := by
  have hboth := alternatives_regroup hg ha f
  rw [← hsame, alternatives_regroup hg' hb, hrs] at hboth
  obtain ⟨⟨ss, f₁⟩, hss, heq⟩ := Option.map_eq_some_iff.1 hboth
  obtain ⟨hmap, rfl⟩ := Prod.mk.inj heq
  exact ⟨ss, hss, hmap⟩

end Ast

end Regex

end PathGlob
