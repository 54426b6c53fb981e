-- SUMMARY: The ways of a pattern over a text in order of preference, and that its expression has the same ones.
import PathGlob.Proofs.Pattern.Language
import PathGlob.Proofs.Regex.Preferring

/-!
# Preferred ways of a pattern

`Pattern.ways` follows the tree of a pattern: an item decides before the items after it,
alternatives come in the order of the text, taking an optional item comes before leaving it out,
wildcards and variables take the longest text first, and one more directory comes before none.

The expression of a pattern has the same ways. They come in the same order as long as alternatives
do not begin with something in common that leaves a choice, such as a wildcard. What they all begin
with is taken before one of them is chosen.
-/

namespace PathGlob

namespace Pattern

open Ways (Alike)

/-! ## Ways -/

/-- The lengths of the beginnings of a text that have a property, longest first. -/
def lengths (P : List Char → Bool) (s : List Char) : List Nat :=
  (List.range (s.length + 1)).reverse.filter fun k => P (s.take k)

/-- Over a piece of a text that has a property, the longest first. -/
def longest (text : List Char) (P : List Char → Bool) : Ways := fun i =>
  (lengths P (text.drop i)).map fun k => (i + k, [])

/-- Over one character. -/
def letter (text : List Char) (c : Char) : Ways := fun i =>
  if text[i]? = some c then [(i + 1, [])] else []

/-- Over the name of a file or directory. -/
def name (text : List Char) : Ways := longest text fun s => s ≠ [] ∧ '/' ∉ s

/-- The ways of a pattern over a text. The first declaration is the `n`-th and leaves its marks as
group `n + 1`. -/
def ways (text : List Char) (n : Nat) : Pattern → Ways
  | .empty => .stay
  | .literal c => letter text c
  | .segment => longest text fun s => '/' ∉ s
  | .directories => .repeated text.length 0 none true (.seq (name text) (letter text '/'))
  | .anything => longest text fun s => '\n' ∉ s
  | .var _ => .mark (n + 1) (name text)
  | .seq p q => .seq (p.ways text n) (q.ways text (n + p.arity))
  | .alt p q => .either (p.ways text n) (q.ways text (n + p.arity))
  | .group p => p.ways text n
  | .optional p => .either (p.ways text n) .stay

/-! ## Longest pieces -/

section

variable {P : List Char → Bool} {f : Char → Bool} {c : Char} {cs : List Char}

theorem lengths_cons (P : List Char → Bool) (c : Char) (cs : List Char) : lengths P (c :: cs) =
    (lengths (fun s => P (c :: s)) cs).map (· + 1) ++ if P [] then [0] else [] := by
  have hrange : (List.range (cs.length + 2)).reverse =
      (List.range (cs.length + 1)).reverse.map (· + 1) ++ [0] := by
    rw [List.range_succ_eq_map, List.reverse_cons, List.map_reverse]
  rw [lengths, List.length_cons, hrange, List.filter_append, List.filter_map]
  congr 1
  cases h : P [] <;> simp [h]

theorem lengths_all_cons (f : Char → Bool) (c : Char) (cs : List Char) :
    lengths (·.all f) (c :: cs) =
      (if f c then (lengths (·.all f) cs).map (· + 1) else []) ++ [0] := by
  rw [lengths_cons]
  cases h : f c <;> simp [h, lengths]

theorem lengths_nonempty_cons (f : Char → Bool) (c : Char) (cs : List Char) :
    lengths (fun s => s ≠ [] && s.all f) (c :: cs) =
      if f c then (lengths (·.all f) cs).map (· + 1) else [] := by
  rw [lengths_cons]
  cases h : f c <;> simp [h, lengths]

end

section

variable (text : List Char) (s : CharSet)

theorem ways_char_of_drop {text : List Char} {i : Nat} {c : Char} {cs : List Char}
    (h : text.drop i = c :: cs) (s : CharSet) :
    Atom.ways text (.char s false) i = if s.contains c then [(i + 1, [])] else [] := by
  have hc : text[i]? = some c := by rw [← List.head?_drop, h, List.head?_cons]
  show (if text[i]?.any s.contains then _ else _) = _
  rw [hc]
  rfl

theorem ways_char_of_drop_nil {text : List Char} {i : Nat} (h : text.drop i = []) (s : CharSet) :
    Atom.ways text (.char s false) i = [] := by
  have hnone : text[i]? = none := by rw [← List.head?_drop, h, List.head?_nil]
  show (if text[i]?.any s.contains then _ else _) = _
  rw [hnone]
  rfl

theorem drop_succ_of_drop {text : List Char} {i : Nat} {c : Char} {cs : List Char}
    (h : text.drop i = c :: cs) : text.drop (i + 1) = cs := by
  rw [← List.drop_drop, h]
  rfl

/-- From the next place, pieces are shorter by one. -/
theorem longest_succ {text : List Char} {i : Nat} {c : Char} {cs : List Char}
    (h : text.drop i = c :: cs) (P : List Char → Bool) :
    longest text P (i + 1) = ((lengths P cs).map (· + 1)).map fun k => (i + k, []) := by
  rw [longest, drop_succ_of_drop h, List.map_map]
  refine List.map_congr_left fun k _ => ?_
  show (i + 1 + k, _) = (i + (k + 1), _)
  rw [Nat.add_right_comm, Nat.add_assoc]

/-- Induction on the text that is left. -/
theorem upTo_char {n i : Nat} (hn : (text.drop i).length ≤ n) :
    Ways.upTo true (Atom.ways text (.char s false)) n i = longest text (·.all s.contains) i := by
  induction h : text.drop i generalizing n i with
  | nil =>
    rw [Ways.upTo_of_eq_nil (ways_char_of_drop_nil h s), longest, h]
    rfl
  | cons c cs ih =>
    rw [h] at hn
    obtain ⟨n, rfl⟩ := Nat.exists_eq_succ_of_ne_zero (Nat.ne_zero_of_lt hn)
    have hdrop := drop_succ_of_drop h
    have hnext := ih (n := n) (i := i + 1) (by rw [hdrop]; exact Nat.le_of_succ_le_succ hn) hdrop
    have hseq : Ways.seq (Atom.ways text (.char s false))
        (Ways.upTo true (Atom.ways text (.char s false)) n) i =
          if s.contains c then longest text (·.all s.contains) (i + 1) else [] := by
      rw [Ways.seq, ways_char_of_drop h]
      split
      · simp [hnext]
      · rfl
    show Ways.seq _ _ i ++ [(i, [])] = _
    rw [hseq, longest_succ h, longest, h, lengths_all_cons, List.map_append]
    congr 1
    split <;> rfl

theorem waysIn_any :
    Regex.waysIn text (.repetition 0 none true (.atom (.char s false))) =
      longest text (·.all s.contains) := by
  funext i
  show Ways.seq .stay _ i = _
  rw [Ways.stay_seq]
  exact upTo_char text s (by rw [List.length_drop]; exact Nat.sub_le _ _)

theorem waysIn_some :
    Regex.waysIn text (.repetition 1 none true (.atom (.char s false))) =
      longest text fun t => t ≠ [] && t.all s.contains := by
  funext i
  show Ways.seq (.seq (Atom.ways text (.char s false)) .stay)
    (Ways.upTo true (Atom.ways text (.char s false)) text.length) i = _
  rw [Ways.seq_stay, Ways.seq, longest]
  cases h : text.drop i with
  | nil =>
    rw [ways_char_of_drop_nil h]
    rfl
  | cons c cs =>
    have hnext := upTo_char text s (n := text.length) (i := i + 1)
      (by rw [List.length_drop]; exact Nat.sub_le _ _)
    rw [ways_char_of_drop h, lengths_nonempty_cons]
    split
    · rw [← longest_succ h, ← hnext]
      simp
    · rfl

end

/-! ## Expressions -/

section

variable (text : List Char)

theorem all_notSlash (s : List Char) : s.all CharSet.notSlash.contains = decide ('/' ∉ s) := by
  rw [Bool.eq_iff_iff, List.all_eq_true, decide_eq_true_eq]
  simp only [← CharSet.mem_iff, CharSet.mem_notSlash]
  grind

theorem all_notLineFeed (s : List Char) :
    s.all CharSet.notLineFeed.contains = decide ('\n' ∉ s) := by
  rw [Bool.eq_iff_iff, List.all_eq_true, decide_eq_true_eq]
  simp only [← CharSet.mem_iff, CharSet.mem_notLineFeed]
  grind

theorem waysIn_segment : (slashless 0).waysIn text = longest text fun s => '/' ∉ s := by
  rw [slashless, waysIn_any]
  simp only [all_notSlash]

theorem waysIn_name : (slashless 1).waysIn text = name text := by
  rw [slashless, waysIn_some, name]
  simp only [all_notSlash, Bool.decide_and]

theorem waysIn_anything :
    Regex.waysIn text (.repetition 0 none true (.atom (.char .notLineFeed false))) =
      longest text fun s => '\n' ∉ s := by
  rw [waysIn_any]
  simp only [all_notLineFeed]

theorem waysIn_ofChar (c : Char) : (Regex.ofChar c).waysIn text = letter text c := by
  funext i
  show (if text[i]?.any (CharSet.singleton c).contains then _ else _) = if _ then _ else _
  refine if_congr ?_ rfl rfl
  cases text[i]? with
  | none => simp
  | some d => simp [CharSet.contains_singleton]

theorem waysIn_var (n : Nat) :
    Regex.waysIn text (.capture (n + 1) (some (slotName n)) (slashless 1)) =
      .mark (n + 1) (name text) := congrArg (Ways.mark (n + 1)) (waysIn_name text)

theorem waysIn_directories : Regex.waysIn text (.repetition 0 none true directory) =
    .repeated text.length 0 none true (.seq (name text) (letter text '/')) := by
  rw [← waysIn_name, ← waysIn_ofChar]
  rfl

end

/-- The expression of a pattern repeats nothing idle. -/
theorem isBrisk_expression (p : Pattern) (n : Nat) :
    (p.expression n).isBrisk Atom.isLook = true :=
  have hoptional (r : Regex Atom) (hr : r.isBrisk Atom.isLook = true) :
      Regex.isBrisk Atom.isLook (.repetition 0 (some 1) true r) = true := by
    rw [Regex.isBrisk, hr]
    rfl
  Regex.hereditary_isBrisk.alternation <|
    forall_expressions Regex.hereditary_isBrisk (fun _ _ => rfl) rfl (fun _ => rfl) (fun _ => rfl)
      (fun _ => rfl) hoptional (List.Subset.refl p.leaves) n

/-! ## Order -/

/-- Whether nowhere within a pattern alternatives begin with something in common that leaves a
choice. -/
def isDistinctWithin (n : Nat) : Pattern → Bool
  | .empty | .literal _ | .segment | .directories | .anything | .var _ => true
  | .seq p q => Regex.isDistinct (p.expressions n) && p.isDistinctWithin n &&
    (Regex.isDistinct (q.expressions (n + p.arity)) && q.isDistinctWithin (n + p.arity))
  | .alt p q => Regex.isDistinct (p.expressions n) && p.isDistinctWithin n &&
    q.isDistinctWithin (n + p.arity)
  | .group p | .optional p => Regex.isDistinct (p.expressions n) && p.isDistinctWithin n

/-- Whether no alternatives of a pattern begin with something in common that leaves a choice. -/
def isDistinct (p : Pattern) : Bool :=
  Regex.isDistinct (p.expressions 0) && p.isDistinctWithin 0

section

variable (text : List Char)

theorem alike_expressions {p : Pattern} {n : Nat} (h : p.isDistinctWithin n = true) :
    Alike (Ways.joining.anyOf ((p.expressions n).map (Regex.waysIn text))) (p.ways text n) := by
  have hone (r : Regex Atom) :
      Ways.joining.anyOf ([r].map (Regex.waysIn text)) = r.waysIn text :=
    Ways.joining.anyOf_singleton _
  have hleaf {r : Regex Atom} {T : Ways} (hT : r.waysIn text = T) :
      Alike (Ways.joining.anyOf ([r].map (Regex.waysIn text))) T := by
    rw [hone, hT]
    exact .refl T
  induction p generalizing n with
  | empty => exact hleaf rfl
  | literal c => exact hleaf (waysIn_ofChar text c)
  | segment => exact hleaf (waysIn_segment text)
  | directories => exact hleaf (waysIn_directories text)
  | anything => exact hleaf (waysIn_anything text)
  | var d => exact hleaf (waysIn_var text n)
  | seq p q ihp ihq =>
    simp only [isDistinctWithin, Bool.and_eq_true] at h
    rw [expressions, hone, Regex.waysIn_append]
    have hp := (Regex.alike_alternation text h.1.1).trans (ihp h.1.2)
    have hq := (Regex.alike_alternation text h.2.1).trans (ihq h.2.2)
    exact hp.seq hq
  | alt p q ihp ihq =>
    simp only [isDistinctWithin, Bool.and_eq_true] at h
    have hp := (Regex.alike_alternation text h.1.1).trans (ihp h.1.2)
    exact hp.either (ihq h.2)
  | group p ih =>
    simp only [isDistinctWithin, Bool.and_eq_true] at h
    rw [expressions, hone]
    exact (Regex.alike_alternation text h.1).trans (ih h.2)
  | optional p ih =>
    simp only [isDistinctWithin, Bool.and_eq_true] at h
    rw [expressions, hone, Regex.waysIn_optional]
    exact ((Regex.alike_alternation text h.1).trans (ih h.2)).either (.refl _)

/-- Whatever their order, the ways of a pattern are the passages of its expressions. -/
theorem covers_expressions (p : Pattern) (n : Nat) :
    (p.ways text n).Forward text.length ∧ (p.ways text n).Covers text.length
      (Passage.anyOf ((p.expressions n).map (Regex.passageIn text))) := by
  have hleaf {r : Regex Atom} {T : Ways} (hT : r.waysIn text = T)
      (hr : r.isBrisk Atom.isLook = true) : T.Forward text.length ∧
        T.Covers text.length (Passage.anyOf ([r].map (Regex.passageIn text))) := by
    rw [List.map_singleton, Passage.anyOf_singleton, ← hT]
    exact ⟨Regex.forward_ways (Atom.forward_ways text) r, Regex.covers_waysIn text hr⟩
  induction p generalizing n with
  | empty => exact hleaf rfl rfl
  | literal c => exact hleaf (waysIn_ofChar text c) rfl
  | segment => exact hleaf (waysIn_segment text) rfl
  | directories => exact hleaf (waysIn_directories text) rfl
  | anything => exact hleaf (waysIn_anything text) rfl
  | var d => exact hleaf (waysIn_var text n) rfl
  | seq p q ihp ihq =>
    obtain ⟨hpforward, hp⟩ := ihp n
    obtain ⟨hqforward, hq⟩ := ihq (n + p.arity)
    rw [expressions, List.map_singleton, Passage.anyOf_singleton, Regex.passageIn_append,
      Regex.passageIn_alternation, Regex.passageIn_alternation]
    exact ⟨hpforward.seq hqforward, .seq hpforward hp hq⟩
  | alt p q ihp ihq =>
    obtain ⟨hpforward, hp⟩ := ihp n
    obtain ⟨hqforward, hq⟩ := ihq (n + p.arity)
    rw [expressions, List.map_cons, Passage.anyOf_cons, Regex.passageIn_alternation]
    exact ⟨hpforward.either hqforward, hp.either hq⟩
  | group p ih =>
    rw [expressions, List.map_singleton, Passage.anyOf_singleton, Regex.passageIn_alternation]
    exact ih n
  | optional p ih =>
    obtain ⟨hforward, hp⟩ := ih n
    rw [expressions, List.map_singleton, Passage.anyOf_singleton, Regex.passageIn_optional,
      Regex.passageIn_alternation]
    exact ⟨hforward.either .stay, hp.either .stay⟩

/-- The marks that a pattern's expression prefers for a whole text. -/
def preferred (text : List Char) (p : Pattern) : Option (List Mark) :=
  ((p.expression 0).waysIn text).whole? text.length

/-- What is preferred is a way of the pattern over the whole text. -/
theorem mem_ways_of_preferred {p : Pattern} {ms : List Mark} (h : p.preferred text = some ms) :
    (text.length, ms) ∈ p.ways text 0 0 := by
  obtain ⟨e, he, rfl⟩ := Option.map_eq_some_iff.1 h
  have hwhole := List.find?_some he
  have hstop : e.1 = text.length := of_decide_eq_true hwhole
  have hpassage := (Regex.covers_waysIn text (isBrisk_expression p 0) 0 (Nat.zero_le _) e).1
    (List.mem_of_find?_eq_some he)
  rw [expression, Regex.passageIn_alternation, hstop] at hpassage
  exact ((covers_expressions text p 0).2 0 (Nat.zero_le _) (text.length, e.2)).2 hpassage

/-- Without common beginnings that leave a choice, the first way of a pattern is preferred. -/
theorem preferred_eq {p : Pattern} (h : p.isDistinct = true) :
    p.preferred text = (p.ways text 0).whole? text.length := by
  obtain ⟨halternation, hwithin⟩ := Bool.and_eq_true_iff.1 h
  have halike := (Regex.alike_alternation text halternation).trans (alike_expressions text hwithin)
  exact congrArg (Option.map Prod.snd) (halike 0 _)

end

end Pattern

end PathGlob
