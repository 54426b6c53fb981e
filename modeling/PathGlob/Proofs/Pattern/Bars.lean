-- SUMMARY: A bar between two patterns lines up their alternatives, with the second renumbered.
import PathGlob.Proofs.Pattern.Slots
import PathGlob.Proofs.Regex.Regrouping

/-!
# Bars

A bar between two patterns lines up their alternatives. No pattern changes a flag, so the
alternatives of the second are read as they are by themselves. Its groups are numbered after those
of the first, which changes nothing but the numbers.
-/

namespace PathGlob

open Regex (Ast Flags)

/-! ## Trees -/

namespace Regex.Ast

/-- Whether no setting reaches what follows a tree. -/
def keepsFlags : Ast → Bool
  | .settings _ => false
  | .repetition _ _ _ a => a.keepsFlags
  | .cat a b | .alt a b => a.keepsFlags && b.keepsFlags
  | _ => true

theorem flags_of_alternatives {a : Ast} (ha : a.keepsFlags = true) {f f' : Flags}
    {rs : List (Regex Atom)} (h : a.alternatives f = some (rs, f')) : f' = f := by
  induction a generalizing f f' rs with
  | settings _ => cases ha
  | empty | assertion _ =>
    cases h
    rfl
  | literal _ | dot | shorthand _ _ | property _ _ =>
    obtain ⟨_, -, heq⟩ := Option.map_eq_some_iff.1 h
    cases heq
    rfl
  | bracket negated s =>
    obtain ⟨_, -, h⟩ := Option.bind_eq_some_iff.1 h
    obtain ⟨_, -, heq⟩ := Option.bind_eq_some_iff.1 h
    cases heq
    rfl
  | repetition min max greedy a ih =>
    obtain ⟨⟨ss, g⟩, ha', heq⟩ := Option.bind_eq_some_iff.1 h
    cases heq
    exact ih ha ha'
  | capture _ _ _ _ | group _ _ _ =>
    obtain ⟨_, -, heq⟩ := Option.bind_eq_some_iff.1 h
    cases heq
    rfl
  | cat a b iha ihb | alt a b iha ihb =>
    obtain ⟨ha, hb⟩ := (Bool.and_eq_true _ _).mp ha
    obtain ⟨⟨ss, g⟩, ha', h⟩ := Option.bind_eq_some_iff.1 h
    obtain ⟨⟨ts, g'⟩, hb', heq⟩ := Option.bind_eq_some_iff.1 h
    cases heq
    exact (ihb hb hb').trans (iha ha ha')

/-- Every tree but an alternation is its only alternative. -/
theorem exists_alternative {t : Ast} (ht : ∀ a b, t ≠ .alt a b) {f f' : Flags}
    {rs : List (Regex Atom)} (h : t.alternatives f = some (rs, f')) : ∃ r, rs = [r] := by
  cases t with
  | alt a b => exact absurd rfl (ht a b)
  | empty | settings _ | assertion _ =>
    cases h
    exact ⟨_, rfl⟩
  | literal _ | dot | shorthand _ _ | property _ _ =>
    obtain ⟨_, -, heq⟩ := Option.map_eq_some_iff.1 h
    cases heq
    exact ⟨_, rfl⟩
  | bracket negated s =>
    obtain ⟨_, -, h⟩ := Option.bind_eq_some_iff.1 h
    obtain ⟨_, -, heq⟩ := Option.bind_eq_some_iff.1 h
    cases heq
    exact ⟨_, rfl⟩
  | repetition _ _ _ _ | capture _ _ _ | group _ _ =>
    obtain ⟨_, -, heq⟩ := Option.bind_eq_some_iff.1 h
    cases heq
    exact ⟨_, rfl⟩
  | cat a b =>
    obtain ⟨_, -, h⟩ := Option.bind_eq_some_iff.1 h
    obtain ⟨_, -, heq⟩ := Option.bind_eq_some_iff.1 h
    cases heq
    exact ⟨_, rfl⟩

theorem regroup_shift (k : Nat) (g : Nat → Nat) (a : Ast) :
    (a.shift k).regroup g = a.regroup fun i => g (i + k) := by
  induction a with
  | repetition _ _ _ a ih | capture _ _ a ih | group _ a ih =>
    simp only [shift, regroup, ih]
  | cat a b iha ihb | alt a b iha ihb => simp only [shift, regroup, iha, ihb]
  | _ => rfl

end Regex.Ast

namespace Pattern

variable {p q : Pattern} {cs ds : List Char} {f f' : Flags} {n g : Nat}

theorem keepsFlags_toAst (p : Pattern) (n g : Nat) : (p.toAst n g).keepsFlags = true := by
  induction p generalizing n g with
  | seq p q ihp ihq =>
    rw [toAst]
    split
    · exact ihp n g
    · exact (Bool.and_eq_true _ _).mpr ⟨ihp _ _, ihq _ _⟩
  | alt p q ihp ihq => exact (Bool.and_eq_true _ _).mpr ⟨ihp _ _, ihq _ _⟩
  | optional p ih => exact ih n g
  | _ => rfl

/-- The place of a pattern in a text changes the numbers of its groups and the names of its
slots. -/
theorem regroup_toAst (p : Pattern) (n m g k : Nat) (h : Nat → Nat) :
    (p.toAst n (g + k)).regroup h = (p.toAst m g).regroup fun i => h (i + k) := by
  induction p generalizing n m g with
  | var d =>
    simp only [toAst, Ast.regroup, Ast.regroup_shift]
    congr 1
    · congr 1; omega
    · congr 1
      funext i
      congr 1; omega
  | seq p q ihp ihq =>
    rw [toAst, toAst]
    split
    · exact ihp _ _ _
    · simp only [Ast.regroup, ihp n m g, Nat.add_right_comm g k, ihq _ (m + p.arity) _]
  | alt p q ihp ihq =>
    simp only [toAst, Ast.regroup, ihp n m g, Nat.add_right_comm g k, ihq _ (m + p.arity) _]
  | group p ih | optional p ih => simp only [toAst, Ast.regroup, ih n m g]
  | _ => rfl

/-! ## Bars -/

/-- The alternatives of a pattern, then another pattern. -/
def orElse : Pattern → Pattern → Pattern
  | .alt p q, r => .alt p (q.orElse r)
  | p, r => .alt p r

theorem Derives.orElse (hp : Derives .alternatives cs p) (hq : Derives .alternatives ds q) :
    Derives .alternatives (cs ++ '|' :: ds) (p.orElse q) := by
  generalize hk : Phrase.alternatives = k at hp
  induction hp with
  | last hp _ =>
    have hbar := Derives.bar hp hq
    cases hp <;> exact hbar
  | bar hp _ _ ih =>
    rw [List.append_assoc]
    exact .bar hp (ih rfl)
  | _ => cases hk

theorem declarations_orElse (p q : Pattern) :
    (p.orElse q).declarations = p.declarations ++ q.declarations := by
  induction p with
  | alt p r _ ih => simp only [orElse, declarations, ih, List.append_assoc]
  | _ => rfl

theorem captures_orElse (p q : Pattern) (n g : Nat) :
    ((p.orElse q).toAst n g).captures =
      (p.toAst n g).captures ++ (q.toAst (n + p.arity) (g + p.groups)).captures := by
  induction p generalizing n g with
  | alt p r _ ih =>
    have hgroups : (alt p r).groups = p.groups + r.groups := groups_seq p r
    rw [orElse, toAst, toAst, Ast.captures_alt, Ast.captures_alt, ih, List.append_assoc, hgroups,
      arity, ← Nat.add_assoc, ← Nat.add_assoc]
  | _ => exact Ast.captures_alt _ _

theorem toAst_seq_ne_alt {a b : Ast} (hp : ∀ a b, p.toAst n g ≠ .alt a b) :
    (seq p q).toAst n g ≠ .alt a b := by
  rw [toAst]
  split
  · exact hp a b
  · intro h
    cases h

theorem Derives.toAst_ne_alt {k : Phrase} (h : Derives k cs p) (hk : k ≠ .alternatives)
    (a b : Ast) : p.toAst n g ≠ .alt a b := by
  induction h generalizing n g a b with
  | last _ _ | bar _ _ _ _ => exact absurd rfl hk
  | segment _ _ _ | directories _ _ | anything _ _ _ | consOptional _ _ _ _ =>
    exact toAst_seq_ne_alt fun _ _ => nofun
  | cons _ _ ihp _ => exact toAst_seq_ne_alt (ihp nofun)
  | _ => exact nofun

theorem Derives.alternatives_orElse (hp : Derives .alternatives cs p)
    {rs ss : List (Regex Atom)} (hrs : (p.toAst n g).alternatives f = some (rs, f))
    (hss : (q.toAst (n + p.arity) (g + p.groups)).alternatives f = some (ss, f)) :
    ((p.orElse q).toAst n g).alternatives f = some (rs ++ ss, f) := by
  generalize hk : Phrase.alternatives = k at hp
  induction hp generalizing n g rs with
  | @last cs p hp _ =>
    obtain ⟨r, rfl⟩ := Ast.exists_alternative (hp.toAst_ne_alt nofun) hrs
    have hbar : ((alt p q).toAst n g).alternatives f = some ([r] ++ ss, f) := by
      rw [toAst, Ast.alternatives, hrs]
      show (Ast.alternatives f _).bind _ = _
      rw [hss]
      rfl
    cases hp <;> exact hbar
  | @bar _ _ p p' hp hp' _ ih =>
    have hgroups : (alt p p').groups = p.groups + p'.groups := groups_seq p p'
    obtain ⟨⟨rs₁, f₁⟩, hrs₁, h⟩ := Option.bind_eq_some_iff.1 hrs
    obtain ⟨⟨rs₂, f₂⟩, hrs₂, heq⟩ := Option.bind_eq_some_iff.1 h
    obtain rfl := Ast.flags_of_alternatives (keepsFlags_toAst p n g) hrs₁
    cases heq
    rw [hgroups, arity, ← Nat.add_assoc, ← Nat.add_assoc] at hss
    have hrest := ih hrs₂ hss rfl
    rw [Pattern.orElse, toAst, Ast.alternatives, hrs₁]
    show (Ast.alternatives _ _).bind _ = _
    rw [hrest]
    rfl
  | _ => cases hk

theorem fits_orElse (hp : ∀ d ∈ p.declarations, d.Fits) (hq : ∀ d ∈ q.declarations, d.Fits) :
    ∀ d ∈ (p.orElse q).declarations, d.Fits := by
  rw [declarations_orElse]
  exact List.forall_mem_append.2 ⟨hp, hq⟩

end Pattern

end PathGlob
