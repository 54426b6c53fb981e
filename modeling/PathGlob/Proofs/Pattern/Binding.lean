-- SUMMARY: What a matcher without constraints binds its variables to.
import PathGlob.Proofs.Pattern.Preference
import PathGlob.Proofs.Pattern.Slots

/-!
# Bindings

A matcher binds a name to what the last declaration of it took on the way that is preferred for the
whole path.
-/

namespace PathGlob

/-! ## Values -/

/-- The value of a name on a way over a text: what the last declaration of it that left a mark
took. -/
def Pattern.value? (p : Pattern) (text : List Char) (ms : List Mark) (name : String) :
    Option String :=
  p.variableNames.zipIdx.reverse.findSome? fun (declared, n) =>
    if declared = name then
      (ms.find? fun m => m.group = n + 1).map fun m => .ofList (m.slice text)
    else none

/-- A later slot takes precedence over those before it. -/
theorem Matcher.get?_paramsOf (slots : List Slot) (c : Captures) (text : List Char)
    (name : String) : (paramsOf slots c text).get? name = slots.reverse.findSome? fun slot =>
      if slot.name = name then (c.group? slot.group).map fun m => .ofList (m.slice text)
      else none := by
  induction slots using List.reverseRecOn with
  | nil => rfl
  | append_singleton slots slot ih =>
    rw [List.reverse_append, List.reverse_singleton, List.singleton_append, List.findSome?_cons,
      ← ih, paramsOf, List.foldl_append, List.foldl_cons, List.foldl_nil, ← paramsOf]
    cases c.group? slot.group with
    | none => simp
    | some mark =>
      rw [Params.get?_insert]
      by_cases hname : slot.name = name
      · simp [hname]
      · rw [if_neg hname, if_neg (Ne.symm hname)]

/-! ## Matchers -/

section

variable {text : String} {options : Options} {m : Matcher} {p : Pattern}

namespace Matcher.Stages

variable (h : m.Stages text options p) (hcase : options.caseInsensitive = false)
  (hc : p.constraints = [])
include h hc

theorem slots_eq : m.slots = p.variableNames.zipIdx.map fun (name, n) => ⟨name, n + 1⟩ := by
  rw [h.slots_eq_mapIdx (Pattern.fits_of_constraints_eq_nil hc), List.mapIdx_eq_zipIdx_map,
    Pattern.variableNames, List.zipIdx_map, List.map_map]
  exact List.map_congr_left fun e _ => congrArg (Slot.mk e.1.name) (Pattern.groupOf_eq hc e.2)

theorem get?_paramsOf (path : List Char) (ms : List Mark) :
    (paramsOf m.slots ⟨0, path.length, ms⟩ path).get? = p.value? path ms := by
  funext name
  rw [Matcher.get?_paramsOf, h.slots_eq hc, ← List.map_reverse, List.findSome?_map]
  rfl

include hcase

theorem regex_eq : m.regex.regex = Regex.anchored (p.expression 0) := by
  have hregex := h.regex
  rw [hcase] at hregex
  exact h.spells.ofSource_eq hc hregex

theorem find?_eq (path : List Char) : m.regex.regex.find? path =
    (p.preferred path).map fun ms => ⟨0, path.length, ms⟩ := by
  rw [h.regex_eq hcase hc]
  exact Regex.find?_anchored path (Pattern.isBrisk_expression p 0)

theorem params?_run (path : String) : (m.run path).params?.map Params.get? =
    (p.preferred path.toList).map (p.value? path.toList) := by
  rw [run, h.find?_eq hcase hc]
  cases p.preferred path.toList with
  | none => rfl
  | some ms => exact congrArg some (h.get?_paramsOf hc path.toList ms)

theorem isMatch_run_eq_isSome (path : String) :
    (m.run path).isMatch = (p.preferred path.toList).isSome := by
  have hrun := congrArg Option.isSome (h.params?_run hcase hc path)
  rw [Option.isSome_map, Option.isSome_map] at hrun
  rw [← hrun]
  cases m.run path <;> rfl

theorem exists_preferred_of_run {path : String} {ps : Params} (hps : m.run path = .matched ps) :
    ∃ ms, p.preferred path.toList = some ms ∧
      ∀ name, ps.get? name = p.value? path.toList ms name := by
  have hrun := h.params?_run hcase hc path
  rw [hps] at hrun
  obtain ⟨ms, hms, hvalue⟩ := Option.map_eq_some_iff.1 hrun.symm
  exact ⟨ms, hms, congrFun hvalue.symm⟩

theorem exists_run_of_preferred {path : String} {ms : List Mark}
    (hms : p.preferred path.toList = some ms) :
    ∃ ps, m.run path = .matched ps ∧ ∀ name, ps.get? name = p.value? path.toList ms name := by
  have hrun := h.params?_run hcase hc path
  rw [hms] at hrun
  cases hresult : m.run path with
  | noMatch =>
    rw [hresult] at hrun
    cases hrun
  | matched ps =>
    rw [hresult] at hrun
    exact ⟨ps, rfl, congrFun (Option.some.inj hrun)⟩

end Matcher.Stages

/-- A matcher of a pattern without constraints matches the words of the pattern's language, and
binds every name to its value on the way that is preferred. That way is one of the pattern's, and it
is the first of them unless alternatives begin with something in common that leaves a choice. -/
theorem run_binds_preferred (hm : (Matcher.compile text options).outcome = .ok m)
    (hcase : options.caseInsensitive = false) (hp : Pattern.Spells text p)
    (hc : p.constraints = []) (path : String) :
    (m.run path = .noMatch ↔ path.toList ∉ p.language) ∧
      m.isMatch path = (m.run path).isMatch ∧
      (m.run path).params?.map Params.get? =
        (p.preferred path.toList).map (p.value? path.toList) ∧
      (∀ ms, p.preferred path.toList = some ms →
        (path.toList.length, ms) ∈ p.ways path.toList 0 0) ∧
      (p.isDistinct = true →
        p.preferred path.toList = (p.ways path.toList 0).whole? path.toList.length) := by
  have hstages := Matcher.stages_of_spells hm hp
  refine ⟨?_, (m.isMatch_run path).symm, hstages.params?_run hcase hc path,
    fun _ => Pattern.mem_ways_of_preferred _, Pattern.preferred_eq _⟩
  rw [← hstages.isMatch_iff hcase hc, ← m.isMatch_run, Bool.not_eq_true]
  cases m.run path <;> simp [MatchResult.isMatch]

theorem run_binds_preferred_digits :
    ∃ m p, (Matcher.compile "({a}-)?{b}").outcome = .ok m ∧ Pattern.Spells "({a}-)?{b}" p ∧
      p.constraints = [] ∧ p.isDistinct = true ∧
      ((m.run "1-2-3" = .noMatch ↔ "1-2-3".toList ∉ p.language) ∧
        m.isMatch "1-2-3" = (m.run "1-2-3").isMatch ∧
        (m.run "1-2-3").params?.map Params.get? =
          (p.preferred "1-2-3".toList).map (p.value? "1-2-3".toList) ∧
        (∀ ms, p.preferred "1-2-3".toList = some ms →
          ("1-2-3".toList.length, ms) ∈ p.ways "1-2-3".toList 0 0) ∧
        (p.isDistinct = true → p.preferred "1-2-3".toList =
          (p.ways "1-2-3".toList 0).whole? "1-2-3".toList.length)) := by
  obtain ⟨m, hm⟩ : ∃ m, (Matcher.compile "({a}-)?{b}").outcome = .ok m := ⟨_, rfl⟩
  obtain ⟨p, hp, hc, hdistinct⟩ : ∃ p, (Pattern.parse "({a}-)?{b}").outcome = .ok p ∧
      p.constraints = [] ∧ p.isDistinct = true := ⟨_, rfl, rfl, by decide +kernel⟩
  have hspells := Pattern.spells_of_parse hp
  exact ⟨m, p, hm, hspells, hc, hdistinct, run_binds_preferred hm rfl hspells hc "1-2-3"⟩

/-- Both alternatives begin with a wildcard, which takes `1a2` before either is chosen. The first of
the pattern's ways takes the first alternative. -/
theorem run_not_binds_first :
    ∃ m p, (Matcher.compile "*a{x}|*b{y}").outcome = .ok m ∧ Pattern.Spells "*a{x}|*b{y}" p ∧
      p.constraints = [] ∧
      ((p.ways "1a2b3".toList 0).whole? 5).map (p.value? "1a2b3".toList · "x") =
        some (some "2b3") ∧
      (m.run "1a2b3").params?.map (Params.get? · "x") = some none := by
  have hrun : Matcher.compiles "*a{x}|*b{y}"
      (fun m => (m.run "1a2b3").params?.map (Params.get? · "x") = some none) = true := by
    decide +kernel
  obtain ⟨m, hm, hx⟩ := Matcher.exists_of_compiles hrun
  obtain ⟨p, hp, hc, hfirst⟩ : ∃ p, (Pattern.parse "*a{x}|*b{y}").outcome = .ok p ∧
      p.constraints = [] ∧ ((p.ways "1a2b3".toList 0).whole? 5).map
        (p.value? "1a2b3".toList · "x") = some (some "2b3") := ⟨_, rfl, rfl, by decide +kernel⟩
  have hspells := Pattern.spells_of_parse hp
  exact ⟨m, p, hm, hspells, hc, hfirst, of_decide_eq_true hx⟩

end

end PathGlob
