-- SUMMARY: What a compiled matcher owes to the stages of compiling, and when it matches.
import PathGlob.Matcher
import PathGlob.Proofs.Pattern.Acceptance
import PathGlob.Proofs.Regex.Drafting

/-!
# Stages of compiling

A matcher exists only if every stage succeeded, so each stage's result can be read off it.
-/

namespace PathGlob

/-- Whether a computation gives a value that passes a test. -/
def Traced.yields {ε α : Type} (x : Traced ε α) (P : α → Bool) : Bool :=
  match x.outcome with
  | .ok a => P a
  | .error _ => false

theorem Traced.exists_of_yields {ε α : Type} {x : Traced ε α} {P : α → Bool}
    (h : x.yields P = true) : ∃ a, x.outcome = .ok a ∧ P a = true := by
  unfold yields at h
  split at h
  · next a ha => exact ⟨a, ha, h⟩
  · cases h

theorem Traced.of_bind_eq_error {ε α β : Type} {x : Traced ε α} {f : α → Traced ε β} {e : ε}
    (h : (x >>= f).outcome = .error e) :
    x.outcome = .error e ∨ ∃ a, x.outcome = .ok a ∧ (f a).outcome = .error e := by
  cases hx : x.outcome with
  | ok a => exact .inr ⟨a, rfl, by rwa [bind_of_ok hx] at h⟩
  | error e' =>
    rw [bind_of_error hx] at h
    cases h
    exact .inl rfl

theorem CompiledRegex.compile_eq_ok_iff {source : String} {caseInsensitive : Bool} {limit : Nat}
    {r : CompiledRegex} : compile source caseInsensitive limit = .ok r ↔
      r.source = source ∧ Regex.ofSource? source caseInsensitive = some r.regex ∧
        r.regex.size ≤ limit := by
  constructor
  · intro h
    unfold compile at h
    split at h
    · cases h
    · next heq =>
      split at h
      · next hsize =>
        cases h
        exact ⟨rfl, heq, hsize⟩
      · cases h
  · rintro ⟨rfl, hr, hsize⟩
    rw [compile, hr]
    exact if_pos hsize

namespace Matcher

theorem checkConstraints_eq_ok_iff {pattern : String} {cs : List (String × String)} :
    (checkConstraints pattern cs).outcome = .ok () ↔
      ∀ c ∈ cs, ∃ r, CompiledRegex.compile c.2 = .ok r := by
  induction cs with
  | nil => exact iff_of_true rfl nofun
  | cons c cs ih =>
    obtain ⟨name, raw⟩ := c
    rw [checkConstraints, List.forall_mem_cons]
    split
    · next r hr => exact ih.trans (and_iff_right ⟨r, hr⟩).symm
    · next e he =>
      rw [Traced.outcome_bind, Traced.outcome_report]
      exact iff_of_false nofun fun ⟨⟨_, hr⟩, _⟩ => nomatch he.symm.trans hr

/-- A matcher is made of what the stages of compiling give. -/
theorem outcome_compile_eq_ok_iff {text : String} {options : Options} {m : Matcher} :
    (compile text options).outcome = .ok m ↔ options.validate = .ok () ∧
      ∃ p, (Pattern.parse text options).outcome = .ok p ∧
        (checkConstraints text p.constraints).outcome = .ok () ∧
        CompiledRegex.compile p.source options.caseInsensitive options.regexLimit = .ok m.regex ∧
        bindSlots m.regex.regex 0 p.variableNames = .ok m.slots := by
  constructor
  · intro h
    -- The stages in order. Entering and the report at the end leave nothing.
    obtain ⟨_, -, h⟩ := Traced.exists_of_bind_eq_ok h
    obtain ⟨_, hvalid, h⟩ := Traced.exists_of_bind_eq_ok h
    obtain ⟨p, hp, h⟩ := Traced.exists_of_bind_eq_ok h
    obtain ⟨_, hconstraints, h⟩ := Traced.exists_of_bind_eq_ok h
    obtain ⟨regex, hregex, h⟩ := Traced.exists_of_bind_eq_ok h
    obtain ⟨slots, hslots, h⟩ := Traced.exists_of_bind_eq_ok h
    obtain ⟨_, -, h⟩ := Traced.exists_of_bind_eq_ok h
    cases h
    exact ⟨Traced.of_mapError_eq_ok hvalid, p, Traced.of_mapError_eq_ok hp, hconstraints,
      Traced.of_mapError_eq_ok hregex, Traced.of_mapError_eq_ok hslots⟩
  · rintro ⟨hvalid, p, hp, hconstraints, hregex, hslots⟩
    simp only [compile, Traced.outcome_bind, Traced.outcome_enter, Traced.outcome_ofExcept,
      Traced.outcome_mapError, Traced.outcome_report, Traced.outcome_pure, hvalid, hp,
      hconstraints, hregex, hslots, Except.mapError, Except.bind]

/-- The results of the stages that made a matcher. -/
structure Stages (text : String) (options : Options) (m : Matcher) (p : Pattern) : Prop where
  spells : Pattern.Spells text p
  constraints : (checkConstraints text p.constraints).outcome = .ok ()
  source : m.source = p.source
  regex : Regex.ofSource? p.source options.caseInsensitive = some m.regex.regex
  slots : bindSlots m.regex.regex 0 p.variableNames = .ok m.slots

theorem stages_of_compile {text : String} {options : Options} {m : Matcher}
    (h : (compile text options).outcome = .ok m) : ∃ p, Stages text options m p := by
  obtain ⟨-, p, hp, hconstraints, hregex, hslots⟩ := outcome_compile_eq_ok_iff.1 h
  obtain ⟨hsource, hregex, -⟩ := CompiledRegex.compile_eq_ok_iff.1 hregex
  exact ⟨p, Pattern.spells_of_parse hp, hconstraints, hsource, hregex, hslots⟩

/-- The tree that a matcher was made from is the one its text spells. -/
theorem stages_of_spells {text : String} {options : Options} {m : Matcher} {p : Pattern}
    (h : (compile text options).outcome = .ok m) (hp : Pattern.Spells text p) :
    Stages text options m p := by
  obtain ⟨q, hstages⟩ := stages_of_compile h
  obtain rfl := hp.unique hstages.spells
  exact hstages

/-- Compiling a pattern and asking something of the matcher, as one computation. It reads the
characters of the regex as they are rendered, since it is slow to take a string apart. -/
def compiles (pattern : String) (P : Matcher → Bool) : Bool :=
  (Pattern.parse pattern).yields fun p =>
    (checkConstraints pattern p.constraints).yields fun _ =>
      ((Regex.Ast.parse ("^(?:".toList ++ p.render 0 ++ ")$".toList)).bind (·.resolve {})).any
        fun r => decide (r.size ≤ defaultSizeLimit) &&
          (Traced.ofExcept (bindSlots r 0 p.variableNames)).yields fun slots =>
            P ⟨⟨p.source, r⟩, slots⟩

theorem exists_of_compiles {pattern : String} {P : Matcher → Bool}
    (h : compiles pattern P = true) : ∃ m, (compile pattern).outcome = .ok m ∧ P m = true := by
  obtain ⟨p, hp, h⟩ := Traced.exists_of_yields h
  obtain ⟨_, hconstraints, h⟩ := Traced.exists_of_yields h
  obtain ⟨r, hr, h⟩ := (Option.any_eq_true _ _).1 h
  obtain ⟨hsize, h⟩ := Bool.and_eq_true_iff.1 h
  obtain ⟨slots, hslots, h⟩ := Traced.exists_of_yields h
  have hchars : p.source.toList = "^(?:".toList ++ p.render 0 ++ ")$".toList :=
    String.toList_ofList
  have hsource : Regex.ofSource? p.source = some r := by
    rw [Regex.ofSource?, hchars]
    exact hr
  exact ⟨⟨⟨p.source, r⟩, slots⟩, outcome_compile_eq_ok_iff.2 ⟨rfl, p, hp, hconstraints,
    CompiledRegex.compile_eq_ok_iff.2 ⟨rfl, hsource, of_decide_eq_true hsize⟩, hslots⟩, h⟩

theorem isMatch_run (m : Matcher) (path : String) : (m.run path).isMatch = m.isMatch path := by
  rw [isMatch, ← Regex.isSome_find?, run]
  cases m.regex.regex.find? path.toList <;> rfl

end Matcher

end PathGlob
