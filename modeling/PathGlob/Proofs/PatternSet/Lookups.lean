-- SUMMARY: A set of patterns finds what its patterns find when each is compiled and run by itself.
import PathGlob.PatternSet
import PathGlob.Proofs.Compiling
import PathGlob.Proofs.Regex.Stopping

/-!
# Lookups in pattern sets

The sources of a set's matchers are compiled a second time, together, and searched in a way of their
own. They stand for the same expressions there (`members_eq`), so what the set finds is what its
members find.
-/

namespace PathGlob.PatternSet

variable {patterns : List String} {options : Options} {s : PatternSet} {ms : List Matcher}
  {path : String}

/-- Every pattern is compiled as it is by itself. -/
theorem forall₂_of_compileAll (h : (compileAll options patterns).outcome = .ok ms) :
    List.Forall₂ (fun pattern m => (Matcher.compile pattern options).outcome = .ok m)
      patterns ms := by
  induction patterns generalizing ms with
  | nil =>
    cases h
    exact .nil
  | cons pattern patterns ih =>
    obtain ⟨m, hm, h⟩ := Traced.exists_of_bind_eq_ok h
    obtain ⟨ms, hms, h⟩ := Traced.exists_of_bind_eq_ok h
    cases h
    exact .cons hm (ih hms)

/-- The sources of matchers are regexes. -/
theorem ofSource?_of_forall₂
    (h : List.Forall₂ (fun pattern m => (Matcher.compile pattern options).outcome = .ok m)
      patterns ms) :
    ∀ m ∈ ms, Regex.ofSource? m.source options.caseInsensitive = some m.regex.regex := by
  intro m hm
  obtain ⟨i, hi, rfl⟩ := List.mem_iff_getElem.1 hm
  have hlength := h.length_eq
  obtain ⟨p, hp⟩ := Matcher.stages_of_compile (h.get (by omega) hi)
  exact hp.source ▸ hp.regex

theorem join_eq_ok (h : join ms options = .ok s) : s.matchers = ms ∧
    RegexSet.compile (ms.map Matcher.source) options.caseInsensitive options.regexLimit =
      .ok s.regexes := by
  unfold join at h
  split at h
  · cases h
  · next hregexes =>
    cases h
    exact ⟨rfl, hregexes⟩

/-- Whether a set was made of some patterns. -/
structure Built (patterns : List String) (options : Options) (s : PatternSet) : Prop where
  matchers : List.Forall₂ (fun pattern m => (Matcher.compile pattern options).outcome = .ok m)
    patterns s.matchers
  regexes : RegexSet.compile (s.matchers.map Matcher.source) options.caseInsensitive
    options.regexLimit = .ok s.regexes

theorem built_of_build (h : (build patterns options).outcome = .ok s) :
    s.Built patterns options := by
  obtain ⟨_, -, h⟩ := Traced.exists_of_bind_eq_ok h
  obtain ⟨ms, hms, h⟩ := Traced.exists_of_bind_eq_ok h
  obtain ⟨joined, hjoined, h⟩ := Traced.exists_of_bind_eq_ok h
  obtain ⟨_, -, h⟩ := Traced.exists_of_bind_eq_ok h
  cases h
  obtain ⟨rfl, hregexes⟩ := join_eq_ok (Traced.of_mapError_eq_ok hjoined)
  exact ⟨forall₂_of_compileAll hms, hregexes⟩

namespace Built

variable (h : s.Built patterns options)
include h

/-- Compiled together, the sources stand for the same expressions. -/
theorem members_eq : s.regexes.members = s.matchers.map fun m => m.regex.regex := by
  have hsources := RegexSet.map_ofSource?_of_compile h.regexes
  rw [List.map_map] at hsources
  have hmembers := (List.map_congr_left (ofSource?_of_forall₂ h.matchers)).symm.trans hsources
  apply List.map_injective_iff.2 (Option.some_injective _)
  rw [← hmembers, List.map_map]
  rfl

theorem get_members (i : Fin s.regexes.members.length) :
    s.regexes.members.get i = (s.matcher i).regex.regex := by
  simp [matcher, h.members_eq]

theorem compile_matcher (i : Fin s.regexes.members.length) :
    ∃ pattern, patterns[i.val]? = some pattern ∧
      (Matcher.compile pattern options).outcome = .ok (s.matcher i) := by
  have hi : i.val < patterns.length := by
    rw [h.matchers.length_eq, ← s.length_eq]
    exact i.isLt
  exact ⟨_, List.getElem?_eq_getElem hi, h.matchers.get hi (s.length_eq ▸ i.isLt)⟩

theorem isMatch_iff_mem (i : Fin s.regexes.members.length) :
    (s.matcher i).isMatch path = true ↔ i ∈ s.regexes.matching path.toList := by
  rw [RegexSet.mem_matching_iff, h.get_members]
  rfl

theorem mem_matching_iff {i : Nat} : i ∈ s.matching path ↔
    ∃ pattern m, patterns[i]? = some pattern ∧
      (Matcher.compile pattern options).outcome = .ok m ∧ m.isMatch path = true := by
  rw [matching, List.mem_map]
  constructor
  · rintro ⟨k, hk, rfl⟩
    obtain ⟨pattern, hpattern, hcompile⟩ := h.compile_matcher k
    exact ⟨pattern, s.matcher k, hpattern, hcompile, (h.isMatch_iff_mem k).2 hk⟩
  · rintro ⟨pattern, m, hpattern, hcompile, hmatch⟩
    obtain ⟨hi, -⟩ := List.getElem?_eq_some_iff.1 hpattern
    have hk : i < s.regexes.members.length := by
      rw [s.length_eq, ← h.matchers.length_eq]
      exact hi
    obtain ⟨_, hpattern', hcompile'⟩ := h.compile_matcher ⟨i, hk⟩
    obtain rfl := Option.some.inj (hpattern.symm.trans hpattern')
    obtain rfl := Except.ok.inj (hcompile.symm.trans hcompile')
    exact ⟨⟨i, hk⟩, (h.isMatch_iff_mem ⟨i, hk⟩).1 hmatch, rfl⟩

/-- The first of the members that match is run by itself. -/
theorem find?_of_matching_eq_cons {ε : Type} {k : Fin s.regexes.members.length}
    {ks : List (Fin s.regexes.members.length)}
    (hfound : s.regexes.matching path.toList = k :: ks) : ∃ pattern m params,
      patterns[k.val]? = some pattern ∧ (Matcher.compile pattern options).outcome = .ok m ∧
      (m.matchPath path : Traced ε _).outcome = .ok (.matched params) ∧
      (s.find? path : Traced ε _).outcome = .ok (some (k.val, params)) := by
  obtain ⟨pattern, hpattern, hcompile⟩ := h.compile_matcher k
  have hk : (s.matcher k).isMatch path = true :=
    (h.isMatch_iff_mem k).2 (hfound ▸ List.mem_cons_self)
  obtain ⟨params, hparams⟩ : ∃ params, (s.matcher k).run path = .matched params := by
    rw [← Matcher.isMatch_run] at hk
    cases hrun : (s.matcher k).run path with
    | noMatch => rw [hrun] at hk; cases hk
    | matched params => exact ⟨params, rfl⟩
  refine ⟨pattern, s.matcher k, params, hpattern, hcompile, ?_, ?_⟩
  · show Except.ok ((s.matcher k).run path) = _
    rw [hparams]
  · rw [find?, hfound]
    show Except.ok (((s.matcher k).run path).params?.map (k.val, ·)) = _
    rw [hparams]
    rfl

end Built

/-- A set finds, in order, the patterns that match a path by themselves, and the variables of the
first of them are those that its own matcher extracts. -/
theorem lookups_eq_members {ε : Type} (h : (build patterns options).outcome = .ok s)
    (path : String) :
    (s.matching path).Pairwise (· < ·) ∧
    (∀ i, i ∈ s.matching path ↔ ∃ pattern m, patterns[i]? = some pattern ∧
      (Matcher.compile pattern options).outcome = .ok m ∧ m.isMatch path = true) ∧
    ((s.find? path : Traced ε _).outcome = .ok none ↔ s.matching path = []) ∧
    ∀ i ∈ s.matching path, (∀ j ∈ s.matching path, i ≤ j) → ∃ pattern m params,
      patterns[i]? = some pattern ∧ (Matcher.compile pattern options).outcome = .ok m ∧
      (m.matchPath path : Traced ε _).outcome = .ok (.matched params) ∧
      (s.find? path : Traced ε _).outcome = .ok (some (i, params)) := by
  have hbuilt := built_of_build h
  have hascending : (s.matching path).Pairwise (· < ·) :=
    List.pairwise_map.2 (s.regexes.matching_ascending path.toList)
  refine ⟨hascending, fun i => hbuilt.mem_matching_iff, ?_⟩
  cases hfound : s.regexes.matching path.toList with
  | nil =>
    have hmatching : s.matching path = [] := by rw [matching, hfound, List.map_nil]
    have hnone : (s.find? path : Traced ε _).outcome = .ok none := by
      rw [find?, hfound]
      rfl
    rw [hmatching]
    exact ⟨iff_of_true hnone rfl, nofun⟩
  | cons k ks =>
    have hmatching : s.matching path = k.val :: ks.map Fin.val := by
      rw [matching, hfound, List.map_cons]
    have hfirst := hbuilt.find?_of_matching_eq_cons (ε := ε) hfound
    rw [hmatching] at hascending ⊢
    constructor
    · obtain ⟨_, _, _, -, -, -, hfind⟩ := hfirst
      exact iff_of_false (fun hnone => nomatch hfind.symm.trans hnone) nofun
    · intro i hi hleast
      obtain rfl : i = k.val := by
        rcases List.mem_cons.1 hi with rfl | hi
        · rfl
        · have hlt := (List.pairwise_cons.1 hascending).1 i hi
          have hle := hleast k.val List.mem_cons_self
          omega
      exact hfirst

/-- Patterns that overlap, after one that does not match. -/
theorem lookups_eq_members_overlapping : ∃ s params,
    (build ["b", "\x7bx\x7d/c", "a/\x7by\x7d", "**"] { sizeLimit := some 8192 }).outcome = .ok s ∧
      s.matching "a/c" = [1, 2, 3] ∧
      (s.find? "a/c" : Traced CompileError _).outcome = .ok (some (1, params)) := by
  have hyields : (build ["b", "\x7bx\x7d/c", "a/\x7by\x7d", "**"]
      { sizeLimit := some 8192 }).yields (fun s => s.matching "a/c" = [1, 2, 3]) = true := by
    decide +kernel
  obtain ⟨s, hbuild, hmatching⟩ := Traced.exists_of_yields hyields
  have hmatching := of_decide_eq_true hmatching
  obtain ⟨-, -, -, hfirst⟩ := lookups_eq_members (ε := CompileError) hbuild "a/c"
  rw [hmatching] at hfirst
  obtain ⟨pattern, m, params, -, -, -, hfind⟩ := hfirst 1 (by decide) (by decide)
  exact ⟨s, params, hbuild, hmatching, hfind⟩

end PathGlob.PatternSet
