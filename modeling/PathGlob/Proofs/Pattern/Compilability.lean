-- SUMMARY: A pattern without constraints compiles unless its regex takes too much room.
import PathGlob.Proofs.Pattern.CaseClosure
import PathGlob.Proofs.Pattern.Parsability
import PathGlob.Proofs.Pattern.Slots

/-!
# Compiling patterns without constraints

The source of such a pattern is an expression, with a meaning whether or not case counts, and with
one group for each declaration. So every stage of compiling succeeds up to the last, which weighs
the expression.
-/

namespace PathGlob

open Regex (Ast)

namespace Pattern

variable {text : String} {p : Pattern}

/-- A pattern without constraints stands for an expression under either flag. -/
theorem Spells.exists_alternatives (h : Spells text p) (hc : p.constraints = []) (ignored : Bool) :
    ∃ r, (Ast.group [] (p.toAst 0 0)).alternatives { caseInsensitive := ignored } =
      some ([r], { caseInsensitive := ignored }) := by
  obtain ⟨rs, hrs⟩ : ∃ rs, (p.toAst 0 0).alternatives { caseInsensitive := ignored } =
      some (rs, { caseInsensitive := ignored }) := by
    cases ignored with
    | false => exact ⟨_, h.alternatives_toAst hc 0⟩
    | true =>
      obtain ⟨rs, hrs, -⟩ := h.covers hc 0
      exact ⟨rs, hrs⟩
  refine ⟨.alternation rs, ?_⟩
  rw [Ast.alternatives]
  show ((p.toAst 0 0).alternatives { caseInsensitive := ignored }).bind _ = _
  rw [hrs]
  rfl

/-- Without constraints there is one group for each declaration. -/
theorem groupCount_eq_arity {a : Ast} {f : Regex.Flags} {r : Regex Atom}
    (hresolve : a.resolve f = some r) (hkept : a.kept = slotNodes 0 0 p.declarations)
    (hc : p.constraints = []) : r.groupCount = p.arity + 1 := by
  have hfree := constraint_eq_none hc
  have hbefore : (p.declarations.dropLast.map Declaration.groups).sum = 0 := by
    refine List.sum_eq_zero fun k hk => ?_
    obtain ⟨d, hd, rfl⟩ := List.mem_map.1 hk
    exact groups_of_constraint_eq_none (hfree d (List.mem_of_mem_dropLast hd))
  have hlast : (p.declarations.getLast?.map fun d =>
      Regex.highest (d.body.kept.map CaptureNode.label)).getD 0 = 0 := by
    cases hd : p.declarations.getLast? with
    | none => rfl
    | some d =>
      show Regex.highest (d.body.kept.map CaptureNode.label) = 0
      rw [body_of_constraint_eq_none (hfree d (List.mem_of_getLast? hd))]
      rfl
  rw [groupCount_of_kept hresolve hkept, hbefore, hlast, Nat.add_zero, Nat.add_zero, Nat.add_comm]

/-- The source of a pattern without constraints is a regex with the group of every declaration. -/
theorem Spells.exists_ofSource (h : Spells text p) (hc : p.constraints = []) (hdepth : p.depth ≤ 50)
    (ignored : Bool) : ∃ r slots, Regex.ofSource? p.source ignored = some r ∧
      bindSlots r 0 p.variableNames = .ok slots ∧ slots.map Slot.name = p.variableNames ∧
        r.groupCount = p.arity + 1 := by
  have hparse := h.parse_source_of_depth hc hdepth
  obtain ⟨g, hgroup⟩ := h.exists_alternatives hc ignored
  have hresolve := Ast.resolve_anchored_of_group rfl hgroup
  have hkept : (Ast.cat (.assertion .lineStart)
      (.cat (.group [] (p.toAst 0 0)) (.assertion .lineEnd))).kept =
        slotNodes 0 0 p.declarations := by
    show [] ++ ((p.toAst 0 0).kept ++ []) = _
    rw [List.nil_append, List.append_nil, kept_toAst]
  refine ⟨_, _, ?_, bindSlots_of_resolve hresolve hkept hparse, ?_,
    groupCount_eq_arity hresolve hkept hc⟩
  · rw [Regex.ofSource?, hparse]
    exact hresolve
  · exact List.ext_getElem (by simp [variableNames]) (by simp [variableNames])

end Pattern

/-! ## Matchers -/

section

variable {text : String} {options : Options} {p : Pattern}

theorem Matcher.outcome_compile (hvalid : options.validate = .ok ())
    (hp : (Pattern.parse text options).outcome = .ok p) (hc : p.constraints = []) :
    (Matcher.compile text options).outcome =
      ((CompiledRegex.compile p.source options.caseInsensitive options.regexLimit).bind fun regex =>
        (bindSlots regex.regex 0 p.variableNames).map (⟨regex, ·⟩)).mapError
          (.regex text p.source) := by
  simp only [Matcher.compile, Traced.outcome_bind, Traced.outcome_enter, Traced.outcome_ofExcept,
    Traced.outcome_mapError, Traced.outcome_report, Traced.outcome_pure, hvalid, hp, hc,
    checkConstraints, Except.mapError, Except.bind]
  cases CompiledRegex.compile p.source options.caseInsensitive options.regexLimit with
  | error e => rfl
  | ok regex =>
    dsimp only
    cases bindSlots regex.regex 0 p.variableNames <;> rfl

/-- Valid options, a pattern without constraints and no more than 50 levels of parentheses leave one
way to fail: that the regex is too large. -/
theorem compile_fails_only_on_size (hvalid : options.validate = .ok ())
    (hp : (Pattern.parse text options).outcome = .ok p) (hc : p.constraints = [])
    (hdepth : p.depth ≤ 50) :
    ∃ r slots, Regex.ofSource? p.source options.caseInsensitive = some r ∧
      bindSlots r 0 p.variableNames = .ok slots ∧ slots.map Slot.name = p.variableNames ∧
      r.groupCount = slots.length + 1 ∧
      (Matcher.compile text options).outcome =
        if r.size ≤ options.regexLimit then .ok ⟨⟨p.source, r⟩, slots⟩
        else .error (.regex text p.source (.tooLarge options.regexLimit)) := by
  have hspells := Pattern.spells_of_parse hp
  obtain ⟨r, slots, hr, hslots, hnames, hcount⟩ :=
    hspells.exists_ofSource hc hdepth options.caseInsensitive
  have hlength : slots.length = p.arity := by
    rw [← p.length_declarations, ← List.length_map Slot.name, hnames, Pattern.variableNames,
      List.length_map]
  refine ⟨r, slots, hr, hslots, hnames, hcount.trans (by rw [hlength]), ?_⟩
  rw [Matcher.outcome_compile hvalid hp hc, CompiledRegex.compile, hr]
  dsimp only
  split
  · show Except.mapError _ (Except.map _ (bindSlots r 0 p.variableNames)) = _
    rw [hslots]
    rfl
  · rfl

/-- Two groups, one of them in the other, with a name that is declared twice. -/
theorem compile_fails_only_on_size_nested :
    ∃ p, (Pattern.parse "(({x}|**/)?.{x})").outcome = .ok p ∧ p.constraints = [] ∧
      p.depth = 2 ∧
      ∃ r slots, Regex.ofSource? p.source = some r ∧
        bindSlots r 0 p.variableNames = .ok slots ∧ slots.map Slot.name = p.variableNames ∧
        r.groupCount = slots.length + 1 ∧
        (Matcher.compile "(({x}|**/)?.{x})").outcome =
          if r.size ≤ defaultSizeLimit then .ok ⟨⟨p.source, r⟩, slots⟩
          else .error (.regex "(({x}|**/)?.{x})" p.source (.tooLarge defaultSizeLimit)) := by
  obtain ⟨p, hp, hc, hdepth⟩ : ∃ p, (Pattern.parse "(({x}|**/)?.{x})").outcome = .ok p ∧
      p.constraints = [] ∧ p.depth = 2 := ⟨_, rfl, rfl, rfl⟩
  exact ⟨p, hp, hc, hdepth, compile_fails_only_on_size rfl hp hc (by omega)⟩

end

end PathGlob
