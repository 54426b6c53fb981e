-- SUMMARY: A pattern whose constraints can stand in a group matches whole paths only.
import PathGlob.Proofs.Compiling
import PathGlob.Proofs.Pattern.Rendering
import PathGlob.Proofs.Regex.Anchors
import PathGlob.Proofs.Regex.Following

/-!
# Constraints between the anchors

The source of a pattern is one group between two anchors, as long as every constraint ends where it
is spliced in. A constraint is known to be an expression by itself. It has to be one between
parentheses too: in verbose mode its end may be a comment, which goes on behind the parenthesis.
-/

namespace PathGlob

namespace Pattern

open Regex (Ast State)

/-- Whether a text is an expression between parentheses. -/
def IsClosed (raw : String) : Prop := (Ast.parse ("(?:".toList ++ raw.toList ++ [')'])).isSome

instance (raw : String) : Decidable (IsClosed raw) := inferInstanceAs (Decidable (_ = true))

/-- Whether every constraint is an expression by itself and between parentheses. -/
def IsSpliceable (p : Pattern) : Prop :=
  ∀ c ∈ p.constraints, (Ast.parse c.2.toList).isSome ∧ IsClosed c.2

/-- A text that stands between parentheses too is read to its end. -/
theorem IsClosed.fits {raw : String} {a : Ast} (h : IsClosed raw)
    (ha : Ast.parse raw.toList = some a) : Ast.Fits raw.toList a := by
  obtain ⟨σ, hsolo, hframes, rfl⟩ := Ast.parse_eq_some ha
  obtain ⟨b, hb⟩ := Option.isSome_iff_exists.1 h
  obtain ⟨ρ, hwrapped, hρ, -⟩ := Ast.parse_eq_some hb
  rw [List.append_assoc] at hwrapped
  obtain ⟨fuel, hwrapped⟩ := (advances_openGroup rfl _).reads.run_rest hwrapped
  have hmirrors : State.Mirrors 0 [_] {} (State.openGroup {} (.plain []) false) :=
    ⟨rfl, rfl, rfl, rfl, rfl⟩
  exact ⟨σ, State.completes_of_wrapped hsolo hframes hmirrors hwrapped hρ, hframes, rfl,
    State.captures_of_run hsolo hframes⟩

theorem IsSpliceable.fits {p : Pattern} (h : IsSpliceable p) : ∀ d ∈ p.declarations, d.Fits := by
  intro d hd
  cases hc : d.constraint with
  | none => exact fits_of_constraint_eq_none hc
  | some raw =>
    have hmem : (d.name, raw) ∈ p.constraints := List.mem_filterMap.2 ⟨d, hd, by rw [hc]; rfl⟩
    obtain ⟨hparse, hclosed⟩ := h _ hmem
    obtain ⟨a, ha⟩ := Option.isSome_iff_exists.1 hparse
    have hsource : d.source = raw := by rw [Declaration.source, hc]; rfl
    have hbody : d.body = a := by rw [Declaration.body, hsource, ha]; rfl
    rw [Declaration.Fits, hsource, hbody]
    exact hclosed.fits ha

/-- The tree of an anchored source is one group between the anchors. -/
theorem Spells.exists_parse_source {text : String} {p : Pattern} {a : Ast} (h : Spells text p)
    (hc : IsSpliceable p) (ha : Ast.parse p.source.toList = some a) :
    ∃ b, a = .cat (.assertion .lineStart) (.cat (.group [] b) (.assertion .lineEnd)) :=
  ⟨_, h.parse_source hc.fits ha⟩

end Pattern

/-! ## Matchers -/

theorem Matcher.parse_of_checkConstraints {pattern : String} {cs : List (String × String)}
    (h : (checkConstraints pattern cs).outcome = .ok ()) :
    ∀ c ∈ cs, (Regex.Ast.parse c.2.toList).isSome := by
  intro c hc
  obtain ⟨r, hr⟩ := checkConstraints_eq_ok_iff.1 h c hc
  obtain ⟨a, ha, -⟩ := Option.bind_eq_some_iff.1 (CompiledRegex.compile_eq_ok_iff.1 hr).2.1
  exact Option.isSome_iff_exists.2 ⟨a, ha⟩

/-- A pattern whose constraints can stand between parentheses matches whole paths only. -/
theorem Matcher.find?_spans {text : String} {options : Options} {m : Matcher} {p : Pattern}
    (hm : (Matcher.compile text options).outcome = .ok m) (hp : Pattern.Spells text p)
    (hclosed : ∀ c ∈ p.constraints, Pattern.IsClosed c.2) (path : String) {c : Captures}
    (hc : m.regex.regex.find? path.toList = some c) :
    c.start = 0 ∧ c.stop = path.toList.length := by
  have hstages := Matcher.stages_of_spells hm hp
  have hspliceable : p.IsSpliceable := fun e he =>
    ⟨parse_of_checkConstraints hstages.constraints e he, hclosed e he⟩
  obtain ⟨a, ha, hr⟩ := Option.bind_eq_some_iff.1 hstages.regex
  obtain ⟨b, rfl⟩ := hp.exists_parse_source hspliceable ha
  obtain ⟨g, -, hanchored⟩ := Regex.Ast.resolve_anchored rfl hr
  rw [hanchored] at hc
  obtain ⟨hstart, hstop, -⟩ :=
    (Regex.passageIn_anchored path.toList g _ _ _).1 (Regex.passageIn_of_find? hc).1
  exact ⟨hstart, hstop⟩

theorem Matcher.find?_spans_digits :
    ∃ m p c, (Matcher.compile "v{n:[0-9]+}").outcome = .ok m ∧ Pattern.Spells "v{n:[0-9]+}" p ∧
      (∀ e ∈ p.constraints, Pattern.IsClosed e.2) ∧ m.regex.regex.find? "v12".toList = some c ∧
        c.start = 0 ∧ c.stop = "v12".toList.length := by
  have hfinds : Matcher.compiles "v{n:[0-9]+}"
      (fun m => (m.regex.regex.find? "v12".toList).isSome) = true := by decide +kernel
  obtain ⟨m, hm, hc⟩ := Matcher.exists_of_compiles hfinds
  obtain ⟨c, hc⟩ := Option.isSome_iff_exists.1 hc
  obtain ⟨p, hp, hconstraints⟩ : ∃ p, (Pattern.parse "v{n:[0-9]+}").outcome = .ok p ∧
      p.constraints = [("n", "[0-9]+")] := ⟨_, rfl, rfl⟩
  have hspells := Pattern.spells_of_parse hp
  have hclosed : ∀ e ∈ p.constraints, Pattern.IsClosed e.2 := by
    rw [hconstraints]
    exact List.forall_mem_singleton.2 (by decide +kernel)
  exact ⟨m, p, c, hm, hspells, hclosed, hc, Matcher.find?_spans hm hspells hclosed "v12" hc⟩

/-- Each of these constraints ends in a comment, which takes in what closes its group. The bar
stands between the anchors then, not inside a group. -/
theorem Matcher.find?_not_spans :
    ∃ m c, (Matcher.compile "{a:ab(?x)#}((\n))|{b:foo(?x)#}\n").outcome = .ok m ∧
      m.regex.regex.find? "xfoo".toList = some c ∧
        ¬ (c.start = 0 ∧ c.stop = "xfoo".toList.length) := by
  have hfinds : Matcher.compiles "{a:ab(?x)#}((\n))|{b:foo(?x)#}\n" (fun m =>
      (m.regex.regex.find? "xfoo".toList).any fun c =>
        decide ¬ (c.start = 0 ∧ c.stop = "xfoo".toList.length)) = true := by decide +kernel
  obtain ⟨m, hm, hany⟩ := Matcher.exists_of_compiles hfinds
  obtain ⟨c, hc, hspan⟩ := (Option.any_eq_true _ _).1 hany
  exact ⟨m, c, hm, hc, of_decide_eq_true hspan⟩

end PathGlob
