-- SUMMARY: Two stars after a quoted directory and a slash match everything below it that is on one line.
import PathGlob.Proofs.Pattern.Quoting
import PathGlob.Proofs.Pattern.Separators

/-!
# Trailing stars

Two stars at the end of a pattern stand for any text without line feeds, although all other wildcards
take these. So what they match below a directory is the paths whose rest is on one line.
-/

namespace PathGlob

namespace Regex

theorem append_assoc (r s t : Regex Atom) : (r.append s).append t = r.append (s.append t) := by
  induction r with
  | empty => rfl
  | cat r r' _ ih => exact congrArg (Regex.cat r) ih
  | _ =>
    cases s with
    | empty | cat => rfl
    | _ => cases t <;> rfl

end Regex

namespace Pattern

/-! ## Joined patterns -/

section

variable {p : Pattern} (h : p.IsSequence) (q : Pattern)

include h

theorem IsSequence.expression_andThen (n : Nat) :
    (p.andThen q).expression n = (p.expression n).append (q.expression (n + p.arity)) := by
  induction h generalizing n with
  | empty => rfl
  | @seq x p _ ih =>
    show (x.expression n).append _ = ((x.expression n).append (p.expression _)).append _
    rw [Regex.append_assoc, arity, ← Nat.add_assoc]
    exact congrArg _ (ih _)

theorem IsSequence.language_andThen : (p.andThen q).language = p.language * q.language := by
  induction h with
  | empty => exact (one_mul _).symm
  | @seq x p _ ih =>
    show x.language * _ = x.language * p.language * _
    rw [ih, mul_assoc]

theorem IsSequence.depth_andThen : (p.andThen q).depth = max p.depth q.depth := by
  induction h with
  | empty => exact (Nat.zero_max _).symm
  | @seq x p _ ih =>
    show max x.depth _ = max (max x.depth p.depth) _
    rw [ih, Nat.max_assoc]

end

/-! ## Below a directory -/

theorem isSequence_ofText (s : List Char) : (ofText s).IsSequence := by
  induction s with
  | nil => exact .empty
  | cons c s ih => exact .seq _ ih

theorem anything_notMem_leaves_ofText (s : List Char) : .anything ∉ (ofText s).leaves := by
  induction s with
  | nil => decide
  | cons c s ih => exact fun h => (List.mem_cons.1 h).elim nofun ih

/-- The pattern for what is below a directory. -/
def descendants (directory : List Char) : Pattern := (ofText directory).join (.seq .anything .empty)

section

variable (s : List Char)

theorem arity_ofText : (ofText s).arity = 0 := by
  rw [← length_declarations, declarations_ofText]
  rfl

theorem declarations_descendants : (descendants s).declarations = [] := by
  rw [descendants, join, ((isSequence_ofText s).juxtaposes _).declarations, declarations_ofText]
  rfl

theorem constraints_descendants : (descendants s).constraints = [] :=
  constraints_eq_nil_of_declarations (declarations_descendants s)

theorem depth_descendants : (descendants s).depth = 0 := by
  rw [descendants, join, (isSequence_ofText s).depth_andThen, depth_ofText]
  rfl

/-- The paths below a directory whose rest is on one line. -/
theorem mem_language_descendants {path : List Char} :
    path ∈ (descendants s).language ↔ ∃ t, path = s ++ '/' :: t ∧ '\n' ∉ t := by
  have hrest : (Pattern.seq (.literal '/') (.seq .anything .empty)).language =
      {['/']} * anything.language := congrArg _ (mul_one _)
  rw [descendants, join, (isSequence_ofText s).language_andThen, language_ofText, hrest]
  constructor
  · intro h
    obtain ⟨_, rfl, _, hbehind, rfl⟩ := Language.mem_mul.1 h
    obtain ⟨_, rfl, t, ht, rfl⟩ := Language.mem_mul.1 hbehind
    exact ⟨t, rfl, ht⟩
  · rintro ⟨t, rfl, ht⟩
    exact Language.mem_mul.2 ⟨s, rfl, _, Language.mem_mul.2 ⟨_, rfl, t, ht, rfl⟩, rfl⟩

theorem bodySize_expression_descendants (kind : ProgramKind) :
    ((descendants s).expression 0).bodySize kind false ≤ instructionSize * byteLength s + 2048 := by
  have hstars : ((Pattern.seq (.literal '/') (.seq .anything .empty)).expression
      (0 + (ofText s).arity)).bodySize kind false ≤ 1536 := by
    rw [arity_ofText]
    obtain ⟨forwards, captures⟩ := kind
    show Regex.bodySize _ _ (expression 0 _) ≤ _
    cases forwards <;> cases captures <;> decide +kernel
  have happend := Regex.bodySize_append_le kind ((ofText s).expression 0)
    ((Pattern.seq (.literal '/') (.seq .anything .empty)).expression (0 + (ofText s).arity))
  have htext := bodySize_expression_ofText s kind 0
  rw [descendants, join, (isSequence_ofText s).expression_andThen]
  simp only [instructionSize] at htext ⊢
  omega

end

theorem quoteReserved_mem_quoted (s : String) : quoteReserved s ∈ [quoteAll s, quoteReserved s] :=
  List.mem_cons_of_mem _ List.mem_cons_self

theorem spells_descendants (s : String) :
    Spells (quoteReserved s ++ "/**") (descendants s.toList) := by
  have hquoted := (spells_of_mem_quoted (quoteReserved_mem_quoted s)).1
  have hstars : Spells "**" (.seq .anything .empty) := .last (.anything nofun .nil)
  have hjoin := Spells.join hquoted hstars (isSequence_ofText _) (.seq _ .empty)
    (anything_notMem_leaves_ofText _)
  rwa [String.append_assoc] at hjoin

end Pattern

/-! ## Matchers -/

namespace Matcher

variable {s : String}

theorem exists_compile_descendants
    (hlength : (Pattern.quoteReserved s ++ "/**").utf8ByteSize ≤ defaultMaxPatternLength.toNat) :
    ∃ m, (compile (Pattern.quoteReserved s ++ "/**")).outcome = .ok m ∧ m.slots = [] := by
  have hp : (Pattern.parse (Pattern.quoteReserved s ++ "/**")).outcome =
      .ok (Pattern.descendants s.toList) :=
    Pattern.outcome_parse_eq_ok_iff_spells.2 ⟨hlength, Pattern.spells_descendants s, nofun⟩
  refine exists_compile_of_bodySize hp (Pattern.declarations_descendants _)
    (by rw [Pattern.depth_descendants]; omega) fun kind => ?_
  have htext := (Pattern.spells_of_mem_quoted (Pattern.quoteReserved_mem_quoted s)).2
  have hbody := Pattern.bodySize_expression_descendants s.toList kind
  have hmax : defaultMaxPatternLength.toNat = 4096 := rfl
  rw [String.utf8ByteSize_append] at hlength
  simp only [instructionSize, defaultSizeLimit] at hbody ⊢
  omega

theorem Stages.isMatch_descendants {text : String} {options : Options} {m : Matcher}
    (h : m.Stages text options (Pattern.descendants s.toList))
    (hcase : options.caseInsensitive = false) (path : String) :
    m.isMatch path = true ↔ ∃ t : String, path = s ++ "/" ++ t ∧ '\n' ∉ t.toList := by
  rw [h.isMatch_iff hcase (Pattern.constraints_descendants _), Pattern.mem_language_descendants]
  constructor
  · rintro ⟨t, hpath, ht⟩
    refine ⟨.ofList t, String.toList_inj.1 ?_, by rwa [String.toList_ofList]⟩
    simpa using hpath
  · rintro ⟨t, rfl, ht⟩
    exact ⟨t.toList, by simp, ht⟩

/-- Text that is quoted, with a slash and two stars behind it, compiles to a matcher of the paths
below it. The path may go on with anything in which there is no line feed. -/
theorem trailing_stars_match_lines_below
    (hlength : (Pattern.quoteReserved s ++ "/**").utf8ByteSize ≤ defaultMaxPatternLength.toNat) :
    ∃ m, (compile (Pattern.quoteReserved s ++ "/**")).outcome = .ok m ∧
      (∀ t : String,
        m.run (s ++ "/" ++ t) = if '\n' ∈ t.toList then .noMatch else .matched []) ∧
      ∀ path : String, (∀ t, path ≠ s ++ "/" ++ t) → m.run path = .noMatch := by
  obtain ⟨m, hm, hslots⟩ := exists_compile_descendants hlength
  have hstages := stages_of_spells hm (Pattern.spells_descendants s)
  have hmatch := hstages.isMatch_descendants rfl
  refine ⟨m, hm, fun t => ?_, fun path hpath => ?_⟩
  · have hbelow : m.isMatch (s ++ "/" ++ t) = true ↔ '\n' ∉ t.toList := by
      rw [hmatch]
      constructor
      · rintro ⟨t', ht', hline⟩
        rwa [(String.append_right_inj _).1 ht']
      · exact fun hline => ⟨t, rfl, hline⟩
    rw [run_of_slots_eq_nil hslots, if_congr hbelow rfl rfl, ite_not]
  · have hnot : ¬ m.isMatch path = true := by
      intro h
      obtain ⟨t, ht, -⟩ := (hmatch path).1 h
      exact hpath t ht
    rw [run_of_slots_eq_nil hslots, if_neg hnot]

/-- A directory whose name begins with a full stop. -/
theorem trailing_stars_match_lines_below_hidden :
    (Pattern.quoteReserved ".git" ++ "/**").utf8ByteSize ≤ defaultMaxPatternLength.toNat ∧
      ∃ m, (compile "\\.git/**").outcome = .ok m ∧
        (∀ t : String,
          m.run (".git" ++ "/" ++ t) = if '\n' ∈ t.toList then .noMatch else .matched []) ∧
        ∀ path : String, (∀ t, path ≠ ".git" ++ "/" ++ t) → m.run path = .noMatch := by
  have hquoted : Pattern.quoteReserved ".git" ++ "/**" = "\\.git/**" := by decide +kernel
  have hlength :
      (Pattern.quoteReserved ".git" ++ "/**").utf8ByteSize ≤ defaultMaxPatternLength.toNat := by
    decide +kernel
  have hmatcher := trailing_stars_match_lines_below hlength
  rw [hquoted] at hmatcher
  exact ⟨hlength, hmatcher⟩

/-- Not everything below a directory is matched: a line feed is not. -/
theorem trailing_stars_not_match_below :
    ¬ ∀ s t : String,
      (Pattern.quoteReserved s ++ "/**").utf8ByteSize ≤ defaultMaxPatternLength.toNat →
        ∃ m, (compile (Pattern.quoteReserved s ++ "/**")).outcome = .ok m ∧
          m.isMatch (s ++ "/" ++ t) = true := by
  intro h
  obtain ⟨m, hm, hmatch⟩ := h "assets" "a\nb" (by decide +kernel)
  obtain ⟨m', hm', hnot⟩ := exists_of_compiles
    (show compiles (Pattern.quoteReserved "assets" ++ "/**")
      (fun m => !m.isMatch ("assets" ++ "/" ++ "a\nb")) = true by decide +kernel)
  obtain rfl := Except.ok.inj (hm.symm.trans hm')
  rw [hmatch] at hnot
  cases hnot

end Matcher

end PathGlob
