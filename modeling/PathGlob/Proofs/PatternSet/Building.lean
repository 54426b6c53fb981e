-- SUMMARY: A set is made of all its patterns or fails for the first that does not compile, and its log says which.
import PathGlob.Proofs.Announcements
import PathGlob.Proofs.PatternSet.Lookups

/-!
# Building pattern sets

Patterns are compiled in order up to the first that fails, so what comes of a list is decided by
where that one is. If there is none, all sources are known to be regexes, and only their size
together is left to go wrong.
-/

namespace PathGlob

/-! ## What is announced -/

/-- Whether all that a computation announces passes a test. -/
def Traced.Announces {ε α : Type} (x : Traced ε α) (P : Entry → Prop) : Prop := ∀ e ∈ x.log, P e

/-- Whether an entry does not say that a set was compiled. -/
def Entry.IsApartFromSets : Entry → Prop
  | .event (.compiledSet _) => False
  | _ => True

/-- Compiling a pattern does not announce a set. -/
theorem Matcher.announces_compile (options : Options) (pattern : String) :
    (compile pattern options).Announces Entry.IsApartFromSets := by
  intro entry hentry
  obtain ⟨s, rfl⟩ | ⟨name, rfl⟩ | ⟨name, raw, rfl⟩ | ⟨n, source, rfl⟩ := mem_log_compile hentry <;>
    exact trivial

namespace PatternSet

/-- What compiling some patterns one after the other announces. -/
def announced (options : Options) (patterns : List String) : List Entry :=
  patterns.flatMap fun pattern => (Matcher.compile pattern options).log

variable {patterns before : List String} {pattern : String} {options : Options}
  {e : CompileError} {ms : List Matcher}

/-! ## With a pattern that fails -/

section

variable (hbefore : ∀ q ∈ before, ∃ m, (Matcher.compile q options).outcome = .ok m)
  (h : (Matcher.compile pattern options).outcome = .error e) (after : List String)

include hbefore h

/-- The first pattern that fails ends the run. -/
theorem compileAll_of_failing :
    compileAll options (before ++ pattern :: after) =
      ⟨announced options (before ++ [pattern]), .error e⟩ := by
  induction before with
  | nil =>
    rw [List.nil_append, compileAll, Traced.bind_of_error h, announced, List.nil_append,
      List.flatMap_singleton]
  | cons q before ih =>
    obtain ⟨⟨m, hm⟩, hrest⟩ := List.forall_mem_cons.1 hbefore
    rw [List.cons_append, compileAll, Traced.bind_of_ok hm, ih hrest]
    rfl

theorem build_of_failing :
    build (before ++ pattern :: after) options =
      ⟨.span .buildSet :: announced options (before ++ [pattern]), .error e⟩ := by
  have hall := compileAll_of_failing hbefore h after
  rw [build, Traced.bind_of_ok (Traced.outcome_enter _), Traced.bind_of_error (by rw [hall]), hall]
  rfl

end

/-! ## With patterns that all compile -/

theorem exists_forall₂_of_compiles
    (h : ∀ q ∈ patterns, ∃ m, (Matcher.compile q options).outcome = .ok m) :
    ∃ ms, List.Forall₂ (fun q m => (Matcher.compile q options).outcome = .ok m) patterns ms := by
  induction patterns with
  | nil => exact ⟨[], .nil⟩
  | cons q patterns ih =>
    obtain ⟨⟨m, hm⟩, hrest⟩ := List.forall_mem_cons.1 h
    obtain ⟨ms, hms⟩ := ih hrest
    exact ⟨m :: ms, .cons hm hms⟩

theorem compile_sources
    (h : ∀ m ∈ ms, Regex.ofSource? m.source options.caseInsensitive = some m.regex.regex)
    (limit : Nat) :
    RegexSet.compile (ms.map Matcher.source) options.caseInsensitive limit =
      if Regex.setSize (ms.map fun m => m.regex.regex) ≤ limit then
        .ok ⟨ms.map fun m => m.regex.regex⟩ else .error (.tooLarge limit) := by
  have hall : (ms.map Matcher.source).mapM
      (fun source => Regex.ofSource? source options.caseInsensitive) =
        some (ms.map fun m => m.regex.regex) := by
    induction ms with
    | nil => rfl
    | cons m ms ih =>
      obtain ⟨hm, hrest⟩ := List.forall_mem_cons.1 h
      rw [List.map_cons, List.mapM_cons, hm, ih hrest]
      rfl
  rw [RegexSet.compile, hall]

section

variable (h : List.Forall₂ (fun q m => (Matcher.compile q options).outcome = .ok m) patterns ms)

include h

theorem compileAll_of_forall₂ :
    compileAll options patterns = ⟨announced options patterns, .ok ms⟩ := by
  induction h with
  | nil => rfl
  | @cons q m patterns ms hm _ ih =>
    rw [compileAll, Traced.bind_of_ok hm, ih]
    show Traced.mk (_ ++ (announced options patterns ++ [])) _ = _
    rw [List.append_nil]
    rfl

/-- Each pattern has its matcher at its own place. -/
theorem getElem?_of_forall₂ (i : Nat) :
    ms[i]? = patterns[i]?.bind fun q => (Matcher.compile q options).outcome.toOption := by
  induction h generalizing i with
  | nil => rfl
  | cons hm _ ih =>
    cases i with
    | zero => simp [hm, Except.toOption]
    | succ i => simpa using ih i

/-- A set is joined unless its members are too large together. -/
theorem join_of_forall₂ :
    if Regex.setSize (ms.map fun m => m.regex.regex) ≤ options.regexLimit then
      ∃ s, join ms options = .ok s ∧ s.matchers = ms
    else join ms options = .error (.tooLarge options.regexLimit) := by
  have hsources := compile_sources (ofSource?_of_forall₂ h) options.regexLimit
  split
  · next hsize =>
    rw [if_pos hsize] at hsources
    cases hjoin : join ms options with
    | ok s => exact ⟨s, rfl, (join_eq_ok hjoin).1⟩
    | error e =>
      unfold join at hjoin
      split at hjoin
      · next herror => exact nomatch hsources.symm.trans herror
      · cases hjoin
  · next hsize =>
    rw [if_neg hsize] at hsources
    unfold join
    split
    · next herror => rw [Except.error.inj (hsources.symm.trans herror)]
    · next hok => exact nomatch hsources.symm.trans hok

theorem build_of_forall₂ :
    build patterns options =
      match join ms options with
      | .ok s =>
        ⟨.span .buildSet :: announced options patterns ++ [.event (.compiledSet ms.length)], .ok s⟩
      | .error e =>
        ⟨.span .buildSet :: announced options patterns, .error (.regex (", ".intercalate patterns)
          (", ".intercalate (ms.map Matcher.source)) e)⟩ := by
  have hall := compileAll_of_forall₂ h
  rw [build, Traced.bind_of_ok (Traced.outcome_enter _), Traced.bind_of_ok (by rw [hall]), hall]
  cases join ms options with
  | ok s => simp [bind, Traced.andThen, Except.mapError]
  | error e => simp [bind, Traced.andThen, Except.mapError]

end

/-! ## Building -/

/-- A set is built from all of its patterns or not at all. The first pattern that does not compile
ends the building with its own error. If all do, only the size of the set as a whole is left to go
wrong. The log tells how far it went. -/
theorem build_all_or_nothing (patterns : List String) (options : Options) :
    (∀ before pattern after e, patterns = before ++ pattern :: after →
      (∀ q ∈ before, ∃ m, (Matcher.compile q options).outcome = .ok m) →
      (Matcher.compile pattern options).outcome = .error e →
      build patterns options =
        ⟨.span .buildSet :: announced options (before ++ [pattern]), .error e⟩ ∧
      ∀ n, .event (.compiledSet n) ∉ (build patterns options).log) ∧
    ((∀ q ∈ patterns, ∃ m, (Matcher.compile q options).outcome = .ok m) →
      ∃ ms, List.Forall₂ (fun q m => (Matcher.compile q options).outcome = .ok m) patterns ms ∧
        if Regex.setSize (ms.map fun m => m.regex.regex) ≤ options.regexLimit then
          ∃ s, build patterns options =
              ⟨.span .buildSet :: announced options patterns ++
                [.event (.compiledSet patterns.length)], .ok s⟩ ∧
            s.length = patterns.length ∧
            ∀ i, s.get? i =
              patterns[i]?.bind fun q => (Matcher.compile q options).outcome.toOption
        else build patterns options = ⟨.span .buildSet :: announced options patterns,
          .error (.regex (", ".intercalate patterns) (", ".intercalate (ms.map Matcher.source))
            (.tooLarge options.regexLimit))⟩) := by
  constructor
  · rintro before pattern after e rfl hbefore h
    have hbuild := build_of_failing hbefore h after
    refine ⟨hbuild, fun n hmem => ?_⟩
    rw [hbuild] at hmem
    obtain hmem | hmem := List.mem_cons.1 hmem
    · cases hmem
    · obtain ⟨q, -, hq⟩ := List.mem_flatMap.1 hmem
      exact Matcher.announces_compile options q _ hq
  · intro h
    obtain ⟨ms, hms⟩ := exists_forall₂_of_compiles h
    have hbuild := build_of_forall₂ hms
    have hjoin := join_of_forall₂ hms
    refine ⟨ms, hms, ?_⟩
    split
    · next hsize =>
      rw [if_pos hsize] at hjoin
      obtain ⟨s, hs, rfl⟩ := hjoin
      rw [hs, ← hms.length_eq] at hbuild
      exact ⟨s, hbuild, hms.length_eq.symm, getElem?_of_forall₂ hms⟩
    · next hsize =>
      rw [if_neg hsize] at hjoin
      rw [hbuild, hjoin]

/-- A set with two bad patterns, and two patterns of 224 bytes each that are too large together. -/
theorem build_all_or_nothing_too_large :
    build ["a", "b)", "("] = ⟨.span .buildSet :: announced {} ["a", "b)"],
      .error (.pattern ⟨"b)", .unexpectedParenthesis 1⟩)⟩ ∧
    ∃ ms : List Matcher, build ["a", "b"] { sizeLimit := some 300 } =
      ⟨.span .buildSet :: announced { sizeLimit := some 300 } ["a", "b"],
        .error (.regex "a, b" (", ".intercalate (ms.map Matcher.source)) (.tooLarge 300))⟩ := by
  constructor
  · refine ((build_all_or_nothing _ _).1 ["a"] "b)" ["("] _ rfl ?_ rfl).1
    exact List.forall_mem_singleton.2 ⟨_, rfl⟩
  · have hfails : (build ["a", "b"] { sizeLimit := some 300 }).yields (fun _ => true) = false := by
      decide +kernel
    have hcompile : ∀ q ∈ ["a", "b"],
        ∃ m, (Matcher.compile q { sizeLimit := some 300 }).outcome = .ok m :=
      List.forall_mem_cons.2 ⟨⟨_, rfl⟩, List.forall_mem_singleton.2 ⟨_, rfl⟩⟩
    obtain ⟨ms, -, hbuild⟩ := (build_all_or_nothing _ _).2 hcompile
    split at hbuild
    · obtain ⟨s, hs, -⟩ := hbuild
      rw [hs] at hfails
      cases hfails
    · exact ⟨ms, hbuild⟩

end PatternSet

end PathGlob
