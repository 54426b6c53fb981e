-- SUMMARY: Building an expression in normal form changes none of its passages.
import PathGlob.Proofs.Regex.Passage
import PathGlob.Proofs.Regex.Shape

/-!
# Passages in normal form

Normal form changes which passages of an expression are preferred, but not which ones there are.
-/

namespace PathGlob

def Passage.joining : Regex.Joining Passage where
  stay := stay
  seq := seq
  never := never
  either := either
  stay_seq _ := stay_seq
  seq_stay _ := seq_stay
  seq_assoc _ _ _ := seq_assoc
  never_either _ := never_either
  either_never _ := either_never
  either_assoc _ _ _ := either_assoc

namespace Regex

open Passage

theorem respects_passage {α : Type} (step : α → Nat → Nat → Prop) :
    Respects joining (passage step) where
  empty := rfl
  cat _ _ := rfl
  alt _ _ := rfl

variable (text : List Char)

theorem passageIn_append (r s : Regex Atom) :
    (r.append s).passageIn text = seq (r.passageIn text) (s.passageIn text) :=
  (respects_passage _).append r s

theorem passageIn_ofSet (s : CharSet) (ascii : Bool) :
    (ofSet s ascii).passageIn text = oneOf text s := by
  ext i j ms
  simp [ofSet, passage, Atom.Leads, oneOf, CharSet.mem_iff]

theorem passageIn_never : never.passageIn text = Passage.never := by
  ext i j ms
  simp [Regex.never, passage, Atom.Leads, Passage.never, CharSet.mem_iff]

/-- Expressions that are sets, as one set. -/
theorem anyOf_of_map_set? {rs : List (Regex Atom)} {ss : List CharSet}
    (h : rs.map set? = ss.map some) :
    anyOf (rs.map (passageIn text)) = oneOf text (.unions ss) := by
  induction ss generalizing rs with
  | nil =>
    obtain rfl := List.map_eq_nil_iff.1 h
    ext i j ms
    simp [anyOf, Passage.never, oneOf, CharSet.mem_iff, CharSet.contains_unions]
  | cons s ss ih =>
    obtain ⟨r, rs, rfl, hs, hss⟩ := List.map_eq_cons_iff.1 h
    obtain ⟨ascii, rfl⟩ := set?_eq_some hs
    have hr : passageIn text (.atom (.char s ascii)) = oneOf text s := rfl
    rw [List.map_cons, anyOf_cons, ih hss, hr]
    ext i j ms
    simp only [either, oneOf, CharSet.mem_iff, CharSet.contains_unions, List.any_cons,
      Bool.or_eq_true]
    grind

theorem passageIn_choice (rs : List (Regex Atom)) :
    (choice rs).passageIn text = anyOf (rs.map (passageIn text)) := by
  have hbuilt := isChoice rs
  generalize choice rs = r at hbuilt
  cases hbuilt with
  | branches => exact (respects_passage _).ofBranches (passageIn_never text) rs
  | joined hss =>
    rw [anyOf_of_map_set? text (map_eq_map_some_of_mapM hss)]
    exact passageIn_ofSet text _ false

theorem passageIn_alternation (rs : List (Regex Atom)) :
    (alternation rs).passageIn text = anyOf (rs.map (passageIn text)) := by
  have hrespects := respects_passage (Atom.Leads text)
  have hbuilt := isAlternation rs
  generalize alternation rs = r at hbuilt
  cases hbuilt with
  | single h =>
    rw [h]
    exact (anyOf_singleton _).symm
  | choice =>
    rw [passageIn_choice]
    exact hrespects.anyOf_flatMap_branches rs
  | shared =>
    have hrests : anyOf (((rests rs).flatMap branches).map (passageIn text)) =
        anyOf ((rests rs).map (passageIn text)) := hrespects.anyOf_flatMap_branches _
    rw [passageIn_append, passageIn_choice, hrests]
    exact hrespects.seq_rests fun T Ts => seq_anyOf _ (T :: Ts)

theorem passageIn_optional (greedy : Bool) (r : Regex Atom) :
    (repeated 0 (some 1) greedy r).passageIn text = either (r.passageIn text) stay := by
  rw [repeated_optional]
  exact repeated_zero_one

end Regex

end PathGlob
