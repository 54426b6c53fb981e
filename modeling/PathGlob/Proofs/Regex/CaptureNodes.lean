-- SUMMARY: The captures of an expression are those of its tree that are not repeated zero times, and every mark is one of their passages.
import Mathlib.Data.Set.Basic
import PathGlob.Proofs.Regex.NormalForm
import PathGlob.Proofs.Regex.Openings
import PathGlob.Regex.Compiled

/-!
# Captures with their bodies

Flags and normal form leave the captures of a tree as they are: each keeps its number and its name,
and its body is what the body in the tree stands for. Only what is repeated zero times is dropped.
So the group of a name, the number of groups and the marks of a match can be read off the tree.
-/

namespace PathGlob

/-- A capture in an expression or in a tree. -/
structure CaptureNode (β : Type) where
  index : Nat
  name : Option String
  body : β

namespace CaptureNode

def label {β : Type} (x : CaptureNode β) : Nat × Option String := (x.index, x.name)

end CaptureNode

namespace Regex

/-! ## Captures of expressions -/

def nodes {α : Type} : Regex α → List (CaptureNode (Regex α))
  | .empty | .atom _ => []
  | .capture index name r => ⟨index, name, r⟩ :: r.nodes
  | .cat r s | .alt r s => r.nodes ++ s.nodes
  | .repetition _ _ _ r => r.nodes

theorem map_label_nodes {α : Type} (r : Regex α) : r.nodes.map CaptureNode.label = r.captures := by
  induction r with
  | empty | atom _ => rfl
  | capture index name r ih => exact congrArg _ ih
  | cat r s ihr ihs | alt r s ihr ihs => rw [nodes, captures, List.map_append, ihr, ihs]
  | repetition _ _ _ r ih => exact ih

/-- Sequences and choices have the captures of their members. -/
def nodeJoining : Joining (Set (CaptureNode (Regex Atom))) where
  stay := ∅
  seq := (· ∪ ·)
  never := ∅
  either := (· ∪ ·)
  stay_seq := Set.empty_union
  seq_stay := Set.union_empty
  seq_assoc := Set.union_assoc
  never_either := Set.empty_union
  either_never := Set.union_empty
  either_assoc := Set.union_assoc

def nodeSet (r : Regex Atom) : Set (CaptureNode (Regex Atom)) := {x | x ∈ r.nodes}

theorem respects_nodeSet : Respects nodeJoining nodeSet where
  empty := Set.ext fun _ => iff_of_false List.not_mem_nil (Set.notMem_empty _)
  cat _ _ := Set.ext fun _ => List.mem_append
  alt _ _ := Set.ext fun _ => List.mem_append

theorem mem_anyOf_nodeSet {rs : List (Regex Atom)} {x : CaptureNode (Regex Atom)} :
    x ∈ nodeJoining.anyOf (rs.map nodeSet) ↔ x ∈ rs.flatMap nodes := by
  induction rs with
  | nil => exact iff_of_false (Set.notMem_empty x) List.not_mem_nil
  | cons r rs ih =>
    rw [List.flatMap_cons, List.mem_append, ← ih]
    exact Iff.rfl

theorem union_anyOf (S T : Set (CaptureNode (Regex Atom)))
    (Ts : List (Set (CaptureNode (Regex Atom)))) :
    S ∪ nodeJoining.anyOf (T :: Ts) = nodeJoining.anyOf ((T :: Ts).map (S ∪ ·)) := by
  induction Ts generalizing T with
  | nil =>
    show S ∪ (T ∪ ∅) = S ∪ T ∪ ∅
    rw [Set.union_assoc]
  | cons U Ts ih =>
    show S ∪ (T ∪ nodeJoining.anyOf (U :: Ts)) = S ∪ T ∪ nodeJoining.anyOf ((U :: Ts).map (S ∪ ·))
    rw [← ih U, Set.union_union_distrib_left]

theorem nodeSet_choice (rs : List (Regex Atom)) :
    (choice rs).nodeSet = nodeJoining.anyOf (rs.map nodeSet) := by
  have hbuilt := isChoice rs
  generalize choice rs = r at hbuilt
  cases hbuilt with
  | branches =>
    have hnever : nodeSet never = ∅ := respects_nodeSet.empty
    exact respects_nodeSet.ofBranches hnever rs
  | joined hss =>
    -- Alternatives that are sets have no captures.
    refine Set.ext fun x => iff_of_false List.not_mem_nil fun hx => ?_
    obtain ⟨r, hr, hx⟩ := List.mem_flatMap.1 (mem_anyOf_nodeSet.1 hx)
    have hset : r.set? ∈ rs.map set? := List.mem_map_of_mem hr
    rw [map_eq_map_some_of_mapM hss] at hset
    obtain ⟨s, -, hs⟩ := List.mem_map.1 hset
    obtain ⟨ascii, rfl⟩ := set?_eq_some hs.symm
    cases hx

theorem mem_nodes_append {r s : Regex Atom} {x : CaptureNode (Regex Atom)} :
    x ∈ (r.append s).nodes ↔ x ∈ r.nodes ++ s.nodes := by
  rw [List.mem_append]
  exact Set.ext_iff.1 (respects_nodeSet.append r s) x

theorem mem_nodes_alternation {rs : List (Regex Atom)} {x : CaptureNode (Regex Atom)} :
    x ∈ (alternation rs).nodes ↔ x ∈ rs.flatMap nodes := by
  rw [← mem_anyOf_nodeSet]
  suffices h : (alternation rs).nodeSet = nodeJoining.anyOf (rs.map nodeSet) from
    Set.ext_iff.1 h x
  have hbuilt := isAlternation rs
  generalize alternation rs = r at hbuilt
  cases hbuilt with
  | single h =>
    rw [h]
    exact (Set.union_empty _).symm
  | choice =>
    rw [nodeSet_choice]
    exact respects_nodeSet.anyOf_flatMap_branches rs
  | shared =>
    have hrests := respects_nodeSet.anyOf_flatMap_branches (rests rs)
    rw [respects_nodeSet.append, nodeSet_choice, hrests]
    exact respects_nodeSet.seq_rests fun T Ts => union_anyOf _ T Ts

theorem nodes_repeated (min : Nat) (max : Option Nat) (greedy : Bool) (r : Regex Atom) :
    (repeated min max greedy r).nodes = if min = 0 ∧ max = some 0 then [] else r.nodes := by
  -- Taking what is still at most once makes the bounds zero just if they were.
  have hsmall (n : Nat) : n.min 1 = 0 ↔ n = 0 := by
    show Min.min n 1 = 0 ↔ n = 0
    omega
  have hstill : (min.min 1 = 0 ∧ some ((max.getD 1).min 1) = some 0) ↔
      (min = 0 ∧ max = some 0) := by
    rw [Option.some_inj, hsmall, hsmall]
    cases max with
    | none => simp
    | some n => rw [Option.getD_some, Option.some_inj]
  unfold repeated
  cases r.isStill with
  | true =>
    simp only [if_true, hstill]
    split
    · rfl
    · split <;> rfl
  | false =>
    simp only [Bool.false_eq_true, if_false]
    split
    · rfl
    · split <;> rfl

/-! ## Captures of trees -/

namespace Ast

theorem captures_cat (a b : Ast) : (cat a b).captures = a.captures ++ b.captures :=
  List.filterMap_append

theorem captures_alt (a b : Ast) : (alt a b).captures = a.captures ++ b.captures :=
  List.filterMap_append

/-- The captures of a tree that are not repeated zero times. -/
def kept : Ast → List (CaptureNode Ast)
  | .repetition min max _ a => if min = 0 ∧ max = some 0 then [] else a.kept
  | .capture index name a => ⟨index, name, a⟩ :: a.kept
  | .group _ a => a.kept
  | .cat a b | .alt a b => a.kept ++ b.kept
  | _ => []

theorem kept_sublist (a : Ast) : (a.kept.map CaptureNode.label).Sublist a.captures := by
  induction a with
  | repetition min max greedy a ih =>
    rw [kept]
    split
    · exact List.nil_sublist _
    · exact ih
  | capture index name a ih => exact ih.cons_cons (index, name)
  | group s a ih => exact ih
  | cat a b iha ihb =>
    rw [kept, captures_cat, List.map_append]
    exact iha.append ihb
  | alt a b iha ihb =>
    rw [kept, captures_alt, List.map_append]
    exact iha.append ihb
  | _ => exact List.nil_sublist _

end Ast

namespace Ast

/-- No two captures of a tree share a number. -/
theorem eq_of_index_eq {text : List Char} {a : Ast} (h : Ast.parse text = some a)
    {x y : CaptureNode Ast} (hx : x ∈ a.kept) (hy : y ∈ a.kept) (hxy : x.index = y.index) :
    x = y := by
  have hsublist := a.kept_sublist.map Prod.fst
  rw [(parse_isNumbered h).1, List.map_map] at hsublist
  exact List.inj_on_of_nodup_map (hsublist.nodup List.nodup_range') hx hy hxy

end Ast

/-- Whether a capture is what a capture of a tree stands for under some flags. -/
def Resolves (y : CaptureNode Ast) (x : CaptureNode (Regex Atom)) : Prop :=
  x.label = y.label ∧
    ∃ f rs f', y.body.alternatives f = some (rs, f') ∧ x.body = .alternation rs

/-- Whether some captures are those of a tree. -/
structure Resolved (ys : List (CaptureNode Ast)) (xs : List (CaptureNode (Regex Atom))) : Prop where
  origin : ∀ x ∈ xs, ∃ y ∈ ys, Resolves y x
  outcome : ∀ y ∈ ys, ∃ x ∈ xs, Resolves y x

section

variable {ys ys' : List (CaptureNode Ast)} {xs xs' : List (CaptureNode (Regex Atom))}

theorem Resolved.nil : Resolved [] [] := ⟨nofun, nofun⟩

theorem Resolved.congr (h : Resolved ys xs) (hmem : ∀ x, x ∈ xs' ↔ x ∈ xs) : Resolved ys xs' where
  origin x hx := h.origin x ((hmem x).1 hx)
  outcome y hy := by
    obtain ⟨x, hx, hresolves⟩ := h.outcome y hy
    exact ⟨x, (hmem x).2 hx, hresolves⟩

theorem Resolved.append (h : Resolved ys xs) (h' : Resolved ys' xs') :
    Resolved (ys ++ ys') (xs ++ xs') where
  origin x hx := by
    rcases List.mem_append.1 hx with hx | hx
    · obtain ⟨y, hy, hresolves⟩ := h.origin x hx
      exact ⟨y, List.mem_append_left _ hy, hresolves⟩
    · obtain ⟨y, hy, hresolves⟩ := h'.origin x hx
      exact ⟨y, List.mem_append_right _ hy, hresolves⟩
  outcome y hy := by
    rcases List.mem_append.1 hy with hy | hy
    · obtain ⟨x, hx, hresolves⟩ := h.outcome y hy
      exact ⟨x, List.mem_append_left _ hx, hresolves⟩
    · obtain ⟨x, hx, hresolves⟩ := h'.outcome y hy
      exact ⟨x, List.mem_append_right _ hx, hresolves⟩

theorem Resolved.cons {y : CaptureNode Ast} {x : CaptureNode (Regex Atom)} (hyx : Resolves y x)
    (h : Resolved ys xs) : Resolved (y :: ys) (x :: xs) :=
  Resolved.append ⟨List.forall_mem_singleton.2 ⟨y, List.mem_cons_self, hyx⟩,
    List.forall_mem_singleton.2 ⟨x, List.mem_cons_self, hyx⟩⟩ h

theorem Resolved.alternation {rs : List (Regex Atom)} (h : Resolved ys (rs.flatMap nodes)) :
    Resolved ys (alternation rs).nodes :=
  h.congr fun _ => mem_nodes_alternation

/-- The captures of an only alternative. -/
theorem Resolved.only {r : Regex Atom} (h : Resolved ys r.nodes) :
    Resolved ys ([r].flatMap nodes) := by
  rwa [List.flatMap_singleton]

end

theorem nodes_literal? {f : Flags} {l : Literal} {r : Regex Atom} (h : f.literal? l = some r) :
    r.nodes = [] := by
  unfold Flags.literal? at h
  split at h
  · cases h
    split <;> rfl
  · cases h

namespace Ast

/-- Resolving a tree resolves its captures. -/
theorem resolved_nodes {a : Ast} {f f' : Flags} {rs : List (Regex Atom)}
    (h : a.alternatives f = some (rs, f')) : Resolved a.kept (rs.flatMap nodes) := by
  induction a generalizing f f' rs with
  | empty | settings _ | assertion _ =>
    cases h
    exact .nil
  | literal l =>
    obtain ⟨r, hr, heq⟩ := Option.map_eq_some_iff.1 h
    cases heq
    refine .only ?_
    rw [nodes_literal? hr]
    exact .nil
  | dot | shorthand _ _ | property _ _ =>
    obtain ⟨s, -, heq⟩ := Option.map_eq_some_iff.1 h
    cases heq
    exact .nil
  | bracket negated s =>
    obtain ⟨_, -, h⟩ := Option.bind_eq_some_iff.1 h
    obtain ⟨_, -, heq⟩ := Option.bind_eq_some_iff.1 h
    cases heq
    exact .nil
  | repetition min max greedy a ih =>
    obtain ⟨⟨ss, g⟩, ha, heq⟩ := Option.bind_eq_some_iff.1 h
    cases heq
    refine .only ?_
    rw [nodes_repeated, kept]
    split
    · exact .nil
    · exact (ih ha).alternation
  | capture index name a ih =>
    obtain ⟨⟨ss, g⟩, ha, heq⟩ := Option.bind_eq_some_iff.1 h
    cases heq
    exact .only (.cons ⟨rfl, f, ss, g, ha, rfl⟩ (ih ha).alternation)
  | group s a ih =>
    obtain ⟨⟨ss, g⟩, ha, heq⟩ := Option.bind_eq_some_iff.1 h
    cases heq
    exact .only (ih ha).alternation
  | cat a b iha ihb =>
    obtain ⟨⟨ss, g⟩, ha, h⟩ := Option.bind_eq_some_iff.1 h
    obtain ⟨⟨ts, g'⟩, hb, heq⟩ := Option.bind_eq_some_iff.1 h
    cases heq
    exact .only (((iha ha).alternation.append (ihb hb).alternation).congr fun _ => mem_nodes_append)
  | alt a b iha ihb =>
    obtain ⟨⟨ss, g⟩, ha, h⟩ := Option.bind_eq_some_iff.1 h
    obtain ⟨⟨ts, g'⟩, hb, heq⟩ := Option.bind_eq_some_iff.1 h
    cases heq
    exact (iha ha).alternation.append (ihb hb)

end Ast

section

variable {a : Ast} {f : Flags} {r : Regex Atom}

theorem resolved_of_resolve (h : a.resolve f = some r) : Resolved a.kept r.nodes := by
  obtain ⟨⟨rs, f'⟩, ha, rfl⟩ := Option.map_eq_some_iff.1 h
  exact (Ast.resolved_nodes ha).alternation

theorem mem_captures_iff (h : a.resolve f = some r) (c : Nat × Option String) :
    c ∈ r.captures ↔ c ∈ a.kept.map CaptureNode.label := by
  have hresolved := resolved_of_resolve h
  rw [← map_label_nodes, List.mem_map, List.mem_map]
  constructor
  · rintro ⟨x, hx, rfl⟩
    obtain ⟨y, hy, hlabel, -⟩ := hresolved.origin x hx
    exact ⟨y, hy, hlabel.symm⟩
  · rintro ⟨y, hy, rfl⟩
    obtain ⟨x, hx, hlabel, -⟩ := hresolved.outcome y hy
    exact ⟨x, hx, hlabel⟩

/-! ## Numbers of groups -/

/-- The number of the last group among some captures. -/
def highest (cs : List (Nat × Option String)) : Nat := cs.foldr (fun c n => max c.1 n) 0

theorem highest_le_iff {cs : List (Nat × Option String)} {n : Nat} :
    highest cs ≤ n ↔ ∀ c ∈ cs, c.1 ≤ n := by
  induction cs with
  | nil => exact iff_of_true (Nat.zero_le n) nofun
  | cons c cs ih =>
    rw [List.forall_mem_cons, ← ih]
    exact Nat.max_le

theorem groupCount_eq (r : Regex Atom) : r.groupCount = highest r.captures + 1 := by
  have hfold (cs : List (Nat × Option String)) (n : Nat) :
      cs.foldl (fun n c => max n (c.1 + 1)) n = max n (highest cs + 1) ∨
        cs = [] ∧ cs.foldl (fun n c => max n (c.1 + 1)) n = n := by
    induction cs generalizing n with
    | nil => exact .inr ⟨rfl, rfl⟩
    | cons c cs ih =>
      refine .inl ?_
      rw [List.foldl_cons]
      have hcons : highest (c :: cs) = max c.1 (highest cs) := rfl
      rcases ih (max n (c.1 + 1)) with heq | ⟨rfl, heq⟩
      · rw [heq, hcons]
        omega
      · rw [heq, hcons]
        show _ = max n (max c.1 0 + 1)
        omega
  rcases hfold r.captures 1 with heq | ⟨hnil, heq⟩
  · rw [groupCount, heq]
    omega
  · rw [groupCount, heq, hnil]
    rfl

theorem groupCount_of_resolve (h : a.resolve f = some r) :
    r.groupCount = highest (a.kept.map CaptureNode.label) + 1 := by
  rw [groupCount_eq]
  refine congrArg (· + 1) (Nat.le_antisymm ?_ ?_)
  · refine highest_le_iff.2 fun c hc => ?_
    exact highest_le_iff.1 (Nat.le_refl _) c ((mem_captures_iff h c).1 hc)
  · refine highest_le_iff.2 fun c hc => ?_
    exact highest_le_iff.1 (Nat.le_refl _) c ((mem_captures_iff h c).2 hc)

theorem eq_of_name_eq {cs : List (Nat × Option String)} (hnames : (cs.filterMap Prod.snd).Nodup)
    {c d : Nat × Option String} (hc : c ∈ cs) (hd : d ∈ cs) {name : String}
    (hcname : c.2 = some name) (hdname : d.2 = some name) : c = d := by
  induction cs with
  | nil => cases hc
  | cons e cs ih =>
    have hrest : (cs.filterMap Prod.snd).Nodup :=
      hnames.sublist ((List.sublist_cons_self e cs).filterMap _)
    have hfirst (he : e.2 = some name) {b : Nat × Option String} (hb : b ∈ cs)
        (hbname : b.2 = some name) : False := by
      rw [List.filterMap_cons_some he, List.nodup_cons] at hnames
      exact hnames.1 (List.mem_filterMap.2 ⟨b, hb, hbname⟩)
    rcases List.mem_cons.1 hc with rfl | hc' <;> rcases List.mem_cons.1 hd with rfl | hd'
    · rfl
    · exact (hfirst hcname hd' hdname).elim
    · exact (hfirst hdname hc' hcname).elim
    · exact ih hrest hc' hd'

/-- A name finds its group if it is given once. -/
theorem groupNamed?_of_resolve (h : a.resolve f = some r)
    (hnames : (a.captures.filterMap Prod.snd).Nodup) {y : CaptureNode Ast} (hy : y ∈ a.kept)
    {name : String} (hname : y.name = some name) : r.groupNamed? name = some y.index := by
  have hmem {c : Nat × Option String} (hc : c ∈ r.captures) : c ∈ a.captures :=
    a.kept_sublist.subset ((mem_captures_iff h c).1 hc)
  have hlabel : (y.index, some name) ∈ r.captures :=
    hname ▸ (mem_captures_iff h y.label).2 (List.mem_map_of_mem hy)
  cases hfind : r.captures.find? (fun c => c.2 = some name) with
  | none =>
    have := List.find?_eq_none.1 hfind _ hlabel
    simp at this
  | some c =>
    have hcname : c.2 = some name := by simpa using List.find?_some hfind
    have hc := hmem (List.mem_of_find?_eq_some hfind)
    rw [groupNamed?, hfind, eq_of_name_eq hnames hc (hmem hlabel) hcname rfl]
    rfl

end

/-! ## Marks -/

theorem exists_node_of_mem_marks {α : Type} {step : α → Nat → Nat → Prop} {r : Regex α} {i j : Nat}
    {ms : List Mark} (h : r.passage step i j ms) : ∀ m ∈ ms, ∃ x ∈ r.nodes, x.index = m.group ∧
      ∃ inner, x.body.passage step m.start m.stop inner := by
  induction r generalizing i j ms with
  | empty =>
    obtain ⟨-, rfl⟩ := h
    exact nofun
  | atom a =>
    obtain ⟨-, rfl⟩ := h
    exact nofun
  | capture index name r ih =>
    obtain ⟨inner, hr, rfl⟩ := h
    refine List.forall_mem_cons.2 ⟨⟨_, List.mem_cons_self, rfl, inner, hr⟩, fun m hm => ?_⟩
    obtain ⟨x, hx, hm⟩ := ih hr m hm
    exact ⟨x, List.mem_cons_of_mem _ hx, hm⟩
  | cat r s ihr ihs =>
    obtain ⟨k, first, second, hr, hs, rfl⟩ := h
    intro m hm
    rcases List.mem_append.1 hm with hm | hm
    · obtain ⟨x, hx, hm⟩ := ihs hs m hm
      exact ⟨x, List.mem_append_right _ hx, hm⟩
    · obtain ⟨x, hx, hm⟩ := ihr hr m hm
      exact ⟨x, List.mem_append_left _ hx, hm⟩
  | alt r s ihr ihs =>
    intro m hm
    rcases h with h | h
    · obtain ⟨x, hx, hm⟩ := ihr h m hm
      exact ⟨x, List.mem_append_left _ hx, hm⟩
    · obtain ⟨x, hx, hm⟩ := ihs h m hm
      exact ⟨x, List.mem_append_right _ hx, hm⟩
  | repetition min max greedy r ih =>
    obtain ⟨n, -, -, h⟩ := h
    induction n generalizing i ms with
    | zero =>
      obtain ⟨-, rfl⟩ := h
      exact nofun
    | succ n ihn =>
      obtain ⟨k, first, second, hr, hs, rfl⟩ := h
      intro m hm
      rcases List.mem_append.1 hm with hm | hm
      · exact ihn hs m hm
      · exact ih hr m hm

end Regex

end PathGlob
