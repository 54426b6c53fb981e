-- SUMMARY: An expression has the same ways over a text as over that text within a longer one.
import Mathlib.Data.List.Find
import PathGlob.Proofs.Regex.Preferring
import PathGlob.Proofs.Regex.Renaming

/-!
# Texts within texts

In a longer text the ways over a piece of it are the same, moved to where the piece begins. The
character after the piece is the only one that could make a difference, so none of the atoms may
take it, and none may look around.
-/

namespace PathGlob

/-- Renames the group of a mark and moves the mark by `k` places. -/
def Mark.move (g : Nat → Nat) (k : Nat) (m : Mark) : Mark := ⟨g m.group, k + m.start, k + m.stop⟩

theorem Mark.move_id : Mark.move id 0 = id := by
  funext m
  rw [move, Nat.zero_add, Nat.zero_add]
  rfl

theorem Mark.slice_move (g : Nat → Nat) (before text : List Char) (m : Mark) :
    (m.move g before.length).slice (before ++ text) = m.slice text := by
  rw [slice, slice, move, List.drop_length_add_append, Nat.add_sub_add_left]

theorem Mark.slice_append {m : Mark} {text : List Char} (h : m.stop ≤ text.length)
    (after : List Char) : m.slice (text ++ after) = m.slice text := by
  rw [slice, slice]
  by_cases hstart : m.start ≤ text.length
  · rw [List.drop_append_of_le_length hstart, List.take_append_of_le_length]
    rw [List.length_drop]
    exact Nat.sub_le_sub_right h m.start
  · rw [Nat.sub_eq_zero_of_le (Nat.le_trans h (Nat.le_of_not_le hstart)), List.take_zero,
      List.take_zero]

namespace Ways

variable {g : Nat → Nat} {k n length : Nat} {T T' U U' : Ways}

/-! ## Moved ways -/

/-- Whether the ways through the first `n` places are those of another through the places from `k`
on. -/
def Moves (g : Nat → Nat) (k n : Nat) (T U : Ways) : Prop :=
  ∀ i ≤ n, U (k + i) = (T i).map fun e => (k + e.1, e.2.map (Mark.move g k))

theorem Moves.stay : Moves g k n stay stay := fun _ _ => rfl

theorem Moves.mark (h : Moves g k n T U) (group : Nat) :
    Moves g k n (mark group T) (mark (g group) U) := by
  intro i hi
  rw [Ways.mark, h i hi, Ways.mark, List.map_map, List.map_map]
  rfl

theorem Moves.seq (hforward : T.Forward n) (h : Moves g k n T U) (h' : Moves g k n T' U') :
    Moves g k n (seq T T') (seq U U') := by
  intro i hi
  rw [Ways.seq, h i hi, List.flatMap_map, Ways.seq, List.map_flatMap]
  refine List.flatMap_congr fun e he => ?_
  rw [h' e.1 (hforward i hi e he).2, List.map_map, List.map_map]
  exact List.map_congr_left fun e' _ => Prod.ext rfl List.map_append.symm

theorem Moves.either (h : Moves g k n T U) (h' : Moves g k n T' U') :
    Moves g k n (either T T') (either U U') := by
  intro i hi
  rw [Ways.either, h i hi, h' i hi, Ways.either, List.map_append]

theorem Moves.prefer (h : Moves g k n T U) (h' : Moves g k n T' U') (greedy : Bool) :
    Moves g k n (prefer greedy T T') (prefer greedy U U') := by
  cases greedy with
  | true => exact h.either h'
  | false => exact h'.either h

theorem Moves.times (hforward : T.Forward n) (h : Moves g k n T U) (m : Nat) :
    Moves g k n (times T m) (times U m) := by
  induction m with
  | zero => exact .stay
  | succ m ih => exact .seq hforward h ih

theorem Moves.upTo (hforward : T.Forward n) (h : Moves g k n T U) (greedy : Bool) (m : Nat) :
    Moves g k n (upTo greedy T m) (upTo greedy U m) := by
  induction m with
  | zero => exact .stay
  | succ m ih => exact (Moves.seq hforward h ih).prefer .stay greedy

/-- The longer text has room for more iterations, but the piece has not. -/
theorem Moves.repeated (hforward : T.Forward n) (h : Moves g k n T U) (hn : n ≤ length) (min : Nat)
    {max : Option Nat} (greedy : Bool) (hc : max = none → T.Consuming n) :
    Moves g k n (repeated n min max greedy T) (repeated length min max greedy U) := by
  refine .seq (hforward.times min) (.times hforward h min) ?_
  cases max with
  | some m => exact .upTo hforward h greedy (m - min)
  | none =>
    intro i hi
    rw [Option.map_none, Option.getD_none, Option.getD_none,
      upTo_eq_of_le (m := length) hforward (hc rfl) greedy hi (by omega) (by omega)]
    exact Moves.upTo hforward h greedy length i hi

/-! ## First ways between places -/

/-- The marks of the first way from one place to another. -/
def first? (T : Ways) (i j : Nat) : Option (List Mark) :=
  ((T i).find? fun e => e.1 = j).map Prod.snd

theorem Moves.first?_eq (h : Moves g k n T U) {i : Nat} (hi : i ≤ n) (j : Nat) :
    U.first? (k + i) (k + j) = (T.first? i j).map (List.map (Mark.move g k)) := by
  have hstop : ((fun e : Nat × List Mark => decide (e.1 = k + j)) ∘ fun e : Nat × List Mark =>
      (k + e.1, e.2.map (Mark.move g k))) = fun e => decide (e.1 = j) := by
    funext e
    simp
  rw [first?, h i hi, List.find?_map, hstop, first?, Option.map_map, Option.map_map]
  rfl

/-- If there is one place only to go on from, the ways to that place and on from there are chosen by
themselves. -/
theorem first?_seq {i j : Nat} (h : ∀ e ∈ T i, e.1 ≠ k → U e.1 = []) :
    (seq T U).first? i j =
      (T.first? i k).bind fun ms => (U.first? k j).map fun ms' => ms' ++ ms := by
  -- A way to another place is never chosen, and from `k` all depends on the same ways.
  have hgoes : ∀ e ∈ T i, ((U e.1).find? fun e' => decide (e'.1 = j)).isSome =
      (decide (e.1 = k) && ((U k).find? fun e' => decide (e'.1 = j)).isSome) := by
    intro e he
    by_cases hk : e.1 = k
    · simp [hk]
    · simp [hk, h e he hk]
  rw [first?, find?_seq, List.find?_congr hgoes, first?, first?]
  cases hU : (U k).find? fun e' => decide (e'.1 = j) with
  | none =>
    have hnone : (T i).find? (fun e => decide (e.1 = k) &&
        (none : Option (Nat × List Mark)).isSome) = none := List.find?_eq_none.2 (by simp)
    rw [hnone]
    simp
  | some e' =>
    simp only [Option.isSome_some, Bool.and_true]
    cases hT : (T i).find? fun e => decide (e.1 = k) with
    | none => rfl
    | some e =>
      have hstop := List.find?_some hT
      have hk : e.1 = k := of_decide_eq_true hstop
      simp [hk, hU]

end Ways

/-! ## Expressions -/

namespace Regex

section

variable {α : Type}

/-- Whether all atoms of an expression have a property. -/
def All (P : α → Prop) : Regex α → Prop
  | .empty => True
  | .atom a => P a
  | .capture _ _ r | .repetition _ _ _ r => r.All P
  | .cat r s | .alt r s => r.All P ∧ s.All P

theorem ways_regroup_id (length : Nat) (step : α → Ways) (r : Regex α) :
    (r.regroup id).ways length step = r.ways length step := by
  induction r with
  | empty | atom _ => rfl
  | capture index name r ih => simp only [regroup, ways, ih, id]
  | cat r s ihr ihs | alt r s ihr ihs => simp only [regroup, ways, ihr, ihs]
  | repetition min max greedy r ih => simp only [regroup, ways, ih]

/-- No mark reaches past the end of the passage that leaves it. -/
theorem stop_le_of_mem_marks {step : α → Nat → Nat → Prop} (hstep : ∀ a i j, step a i j → i ≤ j)
    {r : Regex α} {i j : Nat} {ms : List Mark} (h : r.passage step i j ms) :
    ∀ m ∈ ms, m.stop ≤ j := by
  induction r generalizing i j ms with
  | empty | atom a =>
    obtain ⟨-, rfl⟩ := h
    exact nofun
  | capture index name r ih =>
    obtain ⟨inner, hr, rfl⟩ := h
    exact List.forall_mem_cons.2 ⟨Nat.le_refl j, ih hr⟩
  | cat r s ihr ihs =>
    obtain ⟨k, first, second, hr, hs, rfl⟩ := h
    have hk : k ≤ j := isForward_passage hstep s k j second hs
    exact List.forall_mem_append.2 ⟨ihs hs, fun m hm => Nat.le_trans (ihr hr m hm) hk⟩
  | alt r s ihr ihs => exact h.elim ihr ihs
  | repetition min max greedy r ih =>
    obtain ⟨n, -, -, h⟩ := h
    induction n generalizing i ms with
    | zero =>
      obtain ⟨-, rfl⟩ := h
      exact nofun
    | succ n ihn =>
      obtain ⟨k, first, second, hr, hs, rfl⟩ := h
      have hk : k ≤ j := (isForward_passage hstep r).times n k j second hs
      exact List.forall_mem_append.2 ⟨ihn hs, fun m hm => Nat.le_trans (ih hr m hm) hk⟩

/-- The ways of an expression are moved if those of its atoms are. Its groups, and so the marks, may
be renamed on the way. -/
theorem moves_ways {g : Nat → Nat} {k n length : Nat} {step step' : α → Ways} {isStill : α → Bool}
    (hforward : ∀ a, (step a).Forward n)
    (hconsuming : ∀ a, isStill a = false → (step a).Consuming n) (hn : n ≤ length) {r : Regex α}
    (hr : r.isBrisk isStill = true)
    (hatoms : r.All fun a => Ways.Moves g k n (step a) (step' a)) :
    Ways.Moves g k n (r.ways n step) ((r.regroup g).ways length step') := by
  induction r with
  | empty => exact .stay
  | atom a => exact hatoms
  | capture index name r ih => exact (ih hr hatoms).mark index
  | cat r s ihr ihs =>
    rw [isBrisk, Bool.and_eq_true] at hr
    exact .seq (forward_ways hforward r) (ihr hr.1 hatoms.1) (ihs hr.2 hatoms.2)
  | alt r s ihr ihs =>
    rw [isBrisk, Bool.and_eq_true] at hr
    exact (ihr hr.1 hatoms.1).either (ihs hr.2 hatoms.2)
  | repetition min max greedy r ih =>
    rw [isBrisk, Bool.and_eq_true] at hr
    refine .repeated (forward_ways hforward r) (ih hr.1 hatoms) hn min greedy fun hmax => ?_
    refine consuming_ways hforward hconsuming ?_
    simpa [hmax] using hr.2

end

end Regex

/-- Whether an atom takes characters, but not the first of some text. -/
def Atom.StopsAt (after : List Char) : Atom → Prop
  | .char s _ => ∀ c, after.head? = some c → c ∉ s
  | .look _ => False

section

variable {after : List Char}

theorem Atom.moves_ways {a : Atom} (h : a.StopsAt after) (g : Nat → Nat)
    (before text : List Char) :
    Ways.Moves g before.length text.length (a.ways text) (a.ways (before ++ text ++ after)) := by
  cases a with
  | look l => exact h.elim
  | char s ascii =>
    intro i hi
    have hnext : after.head?.any s.contains = false := by
      cases hc : after.head? with
      | none => rfl
      | some c => exact Bool.eq_false_iff.2 (h c hc)
    have hany : (before ++ text ++ after)[before.length + i]?.any s.contains =
        text[i]?.any s.contains := by
      rw [List.append_assoc, List.getElem?_append_right (Nat.le_add_right _ _),
        Nat.add_sub_cancel_left]
      -- At the end of the piece, the character after it is not taken either.
      rcases Nat.lt_or_eq_of_le hi with hlt | rfl
      · rw [List.getElem?_append_left hlt]
      · rw [List.getElem?_append_right (Nat.le_refl _), Nat.sub_self, ← List.head?_eq_getElem?,
          List.getElem?_eq_none (Nat.le_refl _), hnext, Option.any_none]
    rw [ways, ways, hany]
    split <;> rfl

namespace Regex

theorem All.imp {α : Type} {P Q : α → Prop} (h : ∀ a, P a → Q a) {r : Regex α} (hr : r.All P) :
    r.All Q := by
  induction r with
  | empty => trivial
  | atom a => exact h a hr
  | capture _ _ _ ih | repetition _ _ _ _ ih => exact ih hr
  | cat _ _ ihr ihs | alt _ _ ihr ihs => exact ⟨ihr hr.1, ihs hr.2⟩

theorem waysIn_regroup_id (text : List Char) (r : Regex Atom) :
    (r.regroup id).waysIn text = r.waysIn text := ways_regroup_id _ _ r

theorem moves_waysIn {r : Regex Atom} (hr : r.isBrisk Atom.isLook = true)
    (hatoms : r.All (Atom.StopsAt after)) (g : Nat → Nat) (before text : List Char) :
    Ways.Moves g before.length text.length (r.waysIn text)
      ((r.regroup g).waysIn (before ++ text ++ after)) :=
  moves_ways (Atom.forward_ways text) (fun _ => Atom.consuming_ways text) (by simp; omega) hr
    (hatoms.imp fun _ h => Atom.moves_ways h g before text)

theorem hereditary_stopsAt (after : List Char) : Hereditary (All (Atom.StopsAt after)) where
  empty := trivial
  never _ _ := nofun
  joined {rs ss} h hss c hc hmem := by
    rw [CharSet.mem_iff, CharSet.contains_scalars, CharSet.contains_unions,
      List.any_eq_true] at hmem
    obtain ⟨s, hs, hmem⟩ := hmem
    have hmap : some s ∈ rs.map set? := by
      rw [map_eq_map_some_of_mapM hss]
      exact List.mem_map_of_mem hs
    obtain ⟨r, hr, hset⟩ := List.mem_map.1 hmap
    obtain ⟨ascii, rfl⟩ := set?_eq_some hset
    exact h _ hr c hc hmem
  cat _ _ := Iff.rfl
  alt _ _ := Iff.rfl

end Regex

end

end PathGlob
