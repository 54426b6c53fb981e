-- SUMMARY: An expression between anchors matches the whole text or nothing.
import PathGlob.Regex.Resolve
import PathGlob.Proofs.Regex.NormalForm

/-!
# Anchored expressions

A group between `^` and `$` leads from the start of a text to its end, as long as the anchors are
read outside multi-line mode. Settings within the group end with it.
-/

namespace PathGlob.Regex

variable {f : Flags} {a b : Ast} {r s : Regex Atom} (text : List Char)

theorem holds_textStart_iff (i : Nat) : (i ≤ text.length ∧
    Look.textStart.holds (if i = 0 then none else text[i - 1]?) text[i]? = true) ↔ i = 0 := by
  show (_ ∧ decide ((if i = 0 then none else text[i - 1]?) = none) = true) ↔ _
  rw [decide_eq_true_eq]
  refine ⟨fun ⟨hi, h⟩ => ?_, fun h => ⟨by omega, by simp [h]⟩⟩
  by_cases h0 : i = 0
  · exact h0
  · rw [if_neg h0, List.getElem?_eq_none_iff] at h
    omega

theorem holds_textEnd_iff (i : Nat) : (i ≤ text.length ∧
    Look.textEnd.holds (if i = 0 then none else text[i - 1]?) text[i]? = true) ↔
      i = text.length := by
  show (_ ∧ decide (text[i]? = none) = true) ↔ _
  rw [decide_eq_true_eq, List.getElem?_eq_none_iff]
  omega

theorem passageIn_textStart :
    passageIn text (.atom (.look .textStart)) = fun i j ms => i = 0 ∧ j = i ∧ ms = [] := by
  ext i j ms
  show (_ ∧ j = i) ∧ ms = [] ↔ _
  rw [holds_textStart_iff, and_assoc]

theorem passageIn_textEnd :
    passageIn text (.atom (.look .textEnd)) =
      fun i j ms => i = text.length ∧ j = i ∧ ms = [] := by
  ext i j ms
  show (_ ∧ j = i) ∧ ms = [] ↔ _
  rw [holds_textEnd_iff, and_assoc]

theorem Ast.resolve_cat {f₁ f₂ : Flags} (ha : a.alternatives f = some ([r], f₁))
    (hb : b.alternatives f₁ = some ([s], f₂)) :
    (Ast.cat a b).alternatives f = some ([r.append s], f₂) := by
  rw [alternatives, ha]
  show (b.alternatives f₁).bind _ = _
  rw [hb]
  rfl

/-- An expression between the start of a text and its end. -/
def anchored (r : Regex Atom) : Regex Atom :=
  (Regex.atom (.look .textStart)).append (r.append (.atom (.look .textEnd)))

theorem passageIn_anchored (r : Regex Atom) (i j : Nat) (ms : List Mark) :
    (anchored r).passageIn text i j ms ↔
      i = 0 ∧ j = text.length ∧ r.passageIn text i j ms := by
  rw [anchored, passageIn_append, passageIn_append, passageIn_textStart, passageIn_textEnd]
  constructor
  · rintro ⟨_, _, _, ⟨rfl, rfl, rfl⟩, ⟨_, first, _, hr, ⟨rfl, rfl, rfl⟩, rfl⟩, rfl⟩
    exact ⟨rfl, rfl, by simpa using hr⟩
  · rintro ⟨rfl, rfl, hr⟩
    exact ⟨0, [], ms, ⟨rfl, rfl, rfl⟩, ⟨_, ms, [], hr, ⟨rfl, rfl, rfl⟩, rfl⟩, by simp⟩

theorem Ast.resolve_anchored_of_group (hf : f.multiLine = false) {settings : Settings}
    (h : (Ast.group settings a).alternatives f = some ([r], f)) :
    (Ast.cat (.assertion .lineStart)
      (.cat (.group settings a) (.assertion .lineEnd))).resolve f = some (anchored r) := by
  have hstart : (Ast.assertion .lineStart).alternatives f =
      some ([.atom (.look .textStart)], f) := by
    simp [alternatives, Flags.look, hf]
  have hend : (Ast.assertion .lineEnd).alternatives f = some ([.atom (.look .textEnd)], f) := by
    simp [alternatives, Flags.look, hf]
  rw [resolve, resolve_cat hstart (resolve_cat h hend)]
  rfl

/-- The expression of a tree between anchors. -/
theorem Ast.resolve_anchored (hf : f.multiLine = false) {settings : Settings}
    (hr : (Ast.cat (.assertion .lineStart)
      (.cat (.group settings a) (.assertion .lineEnd))).resolve f = some r) :
    ∃ g, (Ast.group settings a).resolve f = some g ∧ r = anchored g := by
  cases ha : a.alternatives (f.update settings) with
  | none =>
    simp [resolve, alternatives, ha] at hr
  | some rs =>
    have hgroup : (Ast.group settings a).alternatives f = some ([.alternation rs.1], f) := by
      rw [alternatives, ha]
      rfl
    rw [resolve_anchored_of_group hf hgroup] at hr
    cases hr
    exact ⟨.alternation rs.1, by rw [resolve, hgroup]; rfl, rfl⟩

end PathGlob.Regex
