-- SUMMARY: The expression in normal form that a pattern without constraints compiles to.
import PathGlob.Regex.Compiled
import PathGlob.Proofs.Pattern.Rendering
import PathGlob.Proofs.Regex.Anchors

/-!
# Expressions of patterns

The expression follows the tree of the pattern. It is built in normal form, as the engine does.
-/

namespace PathGlob

/-- `[^/]` -/
def CharSet.notSlash : CharSet := (CharSet.singleton '/').complement.scalars

/-- Every character but a line feed. -/
def CharSet.notLineFeed : CharSet := (CharSet.singleton '\n').complement.scalars

@[simp] theorem CharSet.mem_notSlash (c : Char) : c ∈ CharSet.notSlash ↔ c ≠ '/' := by
  simp [CharSet.mem_iff, notSlash, CharSet.contains_singleton]

@[simp] theorem CharSet.mem_notLineFeed (c : Char) : c ∈ CharSet.notLineFeed ↔ c ≠ '\n' := by
  simp [CharSet.mem_iff, notLineFeed, CharSet.contains_singleton]

namespace Pattern

open Regex (Ast Flags)

/-- Any number of characters other than a slash, at least `min`. -/
def slashless (min : Nat) : Regex Atom :=
  .repetition min none true (.atom (.char .notSlash false))

/-- A directory's name with the slash after it. -/
def directory : Regex Atom := .cat (slashless 1) (.ofChar '/')

/-- The alternatives of a pattern without constraints whose first declaration is the `n`-th. -/
def expressions (n : Nat) : Pattern → List (Regex Atom)
  | .empty => [.empty]
  | .literal c => [.ofChar c]
  | .segment => [slashless 0]
  | .directories => [.repetition 0 none true directory]
  | .anything => [.repetition 0 none true (.atom (.char .notLineFeed false))]
  | .var _ => [.capture (n + 1) (some (slotName n)) (slashless 1)]
  | .seq p q =>
    [(Regex.alternation (p.expressions n)).append (.alternation (q.expressions (n + p.arity)))]
  | .alt p q => .alternation (p.expressions n) :: q.expressions (n + p.arity)
  | .group p => [.alternation (p.expressions n)]
  | .optional p => [.repeated 0 (some 1) true (.alternation (p.expressions n))]

/-- The expression of a pattern whose first declaration is the `n`-th. -/
def expression (n : Nat) (p : Pattern) : Regex Atom := .alternation (p.expressions n)

/-- The items of a pattern that hold no others. -/
def leaves : Pattern → List Pattern
  | .seq p q | .alt p q => p.leaves ++ q.leaves
  | .group p | .optional p => p.leaves
  | p => [p]

/-- What holds of every item, and goes by the members of sequences and choices, holds of the
expressions of a pattern. -/
theorem forall_expressions {Q : Regex Atom → Prop} (hQ : Regex.Hereditary Q)
    {items : List Pattern} (hliteral : ∀ c, .literal c ∈ items → Q (.ofChar c))
    (hsegment : Q (slashless 0))
    (hdirectories : .directories ∈ items → Q (.repetition 0 none true directory))
    (hanything :
      .anything ∈ items → Q (.repetition 0 none true (.atom (.char .notLineFeed false))))
    (hvar : ∀ n, Q (.capture (n + 1) (some (slotName n)) (slashless 1)))
    (hoptional : ∀ r, Q r → Q (.repetition 0 (some 1) true r)) {p : Pattern}
    (hp : p.leaves ⊆ items) (n : Nat) : ∀ r ∈ p.expressions n, Q r := by
  induction p generalizing n with
  | empty => exact List.forall_mem_singleton.2 hQ.empty
  | literal c => exact List.forall_mem_singleton.2 (hliteral c (hp (List.mem_singleton_self _)))
  | segment => exact List.forall_mem_singleton.2 hsegment
  | directories =>
    exact List.forall_mem_singleton.2 (hdirectories (hp (List.mem_singleton_self _)))
  | anything => exact List.forall_mem_singleton.2 (hanything (hp (List.mem_singleton_self _)))
  | var d => exact List.forall_mem_singleton.2 (hvar n)
  | seq p q ihp ihq =>
    obtain ⟨hp, hq⟩ := List.append_subset.1 hp
    exact List.forall_mem_singleton.2
      (hQ.append (hQ.alternation (ihp hp n)) (hQ.alternation (ihq hq _)))
  | alt p q ihp ihq =>
    obtain ⟨hp, hq⟩ := List.append_subset.1 hp
    exact List.forall_mem_cons.2 ⟨hQ.alternation (ihp hp n), ihq hq _⟩
  | group p ih => exact List.forall_mem_singleton.2 (hQ.alternation (ih hp n))
  | optional p ih =>
    rw [expressions, Regex.repeated_optional]
    exact List.forall_mem_singleton.2 (hoptional _ (hQ.alternation (ih hp n)))

theorem append_empty (r : Regex Atom) : r.append .empty = r := by
  induction r with
  | cat r s _ ih =>
    show Regex.cat r (s.append .empty) = _
    rw [ih]
  | _ => rfl

section

variable {cs : List Char} {p q : Pattern} {n : Nat}

theorem Derives.exists_expression (h : Derives .unit cs p) (n : Nat) :
    ∃ r, p.expressions n = [r] := by
  cases h <;> exact ⟨_, rfl⟩

/-- An item in front of a sequence. Nothing stands for the end of the sequence. -/
theorem alternatives_toAst_seq (hitem : ∃ r, p.expressions n = [r]) (harity : p.groups = p.arity)
    (hp : (p.toAst n n).alternatives {} = some (p.expressions n, {}))
    (hq : (q.toAst (n + p.arity) (n + p.arity)).alternatives {} =
      some (q.expressions (n + p.arity), {})) :
    ((seq p q).toAst n n).alternatives {} = some ((seq p q).expressions n, {}) := by
  obtain ⟨r, hr⟩ := hitem
  rw [toAst, expressions, harity]
  split
  · next hempty =>
    subst hempty
    have hq : expressions (n + p.arity) .empty = [.empty] := rfl
    rw [hp, hq, hr]
    show _ = some ([r.append .empty], _)
    rw [append_empty]
  · rw [Ast.alternatives, hp]
    show ((q.toAst _ _).alternatives {}).bind _ = _
    rw [hq]
    rfl

/-- Without constraints there are no settings, so the flags stay as they are. -/
theorem Derives.alternatives_toAst {k : Phrase} (h : Derives k cs p) (hc : p.constraints = [])
    (n : Nat) : (p.toAst n n).alternatives {} = some (p.expressions n, {}) := by
  induction h generalizing n with
  | last _ ih => exact ih hc n
  | bar _ _ ihp ihq =>
    obtain ⟨hcp, hcq⟩ := constraints_alt_eq_nil_iff.1 hc
    rw [toAst, Ast.alternatives, groups_eq_arity hcp, ihp hcp n]
    show ((toAst _ _ _).alternatives {}).bind _ = _
    rw [ihq hcq]
    rfl
  | nil => rfl
  | segment _ _ ih | directories _ ih | anything _ _ ih =>
    exact alternatives_toAst_seq ⟨_, rfl⟩ rfl rfl (ih hc _)
  | cons hp _ ihp ihq =>
    obtain ⟨hcp, hcq⟩ := constraints_seq_eq_nil_iff.1 hc
    exact alternatives_toAst_seq (hp.exists_expression n) (groups_eq_arity hcp) (ihp hcp n)
      (ihq hcq _)
  | consOptional hp _ ihp ihq =>
    obtain ⟨hcp, hcq⟩ := constraints_seq_eq_nil_iff.1 hc
    refine alternatives_toAst_seq ⟨_, rfl⟩ (groups_eq_arity hcp) ?_ (ihq hcq _)
    rw [toAst, Ast.alternatives, ihp hcp n]
    rfl
  | fullStop | literal _ | escaped => rfl
  | var _ =>
    rw [toAst, body_of_constraint_eq_none rfl]
    rfl
  | constrained _ _ _ => simp [constraints, declarations] at hc
  | group _ _ ih =>
    rw [toAst, Ast.alternatives, show Flags.update {} [] = {} from rfl, ih hc n]
    rfl

/-- The source of a pattern without constraints compiles to the pattern's expression between
anchors. -/
theorem Spells.ofSource_eq {text : String} {r : Regex Atom} (h : Spells text p)
    (hc : p.constraints = []) (hr : Regex.ofSource? p.source = some r) :
    r = Regex.anchored (p.expression 0) := by
  obtain ⟨a, ha, hr⟩ := Option.bind_eq_some_iff.1 hr
  rw [h.parse_source (fits_of_constraints_eq_nil hc) ha] at hr
  obtain ⟨g, hg, rfl⟩ := Ast.resolve_anchored (f := {}) rfl hr
  have hgroup : (Ast.group [] (p.toAst 0 0)).resolve {} = some (p.expression 0) := by
    rw [Ast.resolve, Ast.alternatives, show Flags.update {} [] = {} from rfl,
      h.alternatives_toAst hc 0]
    rfl
  rw [hgroup] at hg
  cases hg
  rfl

end

end Pattern

end PathGlob
