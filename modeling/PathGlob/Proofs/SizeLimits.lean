-- SUMMARY: Which size limit a pattern is rejected for, and that it is the configured one if no constraint alone exceeds the default.
import PathGlob.Proofs.Compiling

/-!
# Size limits

Two stages of compiling weigh a regex: each constraint is compiled by itself, and then the source of
the whole pattern. Only the second is told of the limit that the options set.
-/

namespace PathGlob

theorem CompiledRegex.compile_eq_tooLarge_iff {source : String} {caseInsensitive : Bool}
    {limit n : Nat} : compile source caseInsensitive limit = .error (.tooLarge n) ↔
      n = limit ∧ ∃ r, Regex.ofSource? source caseInsensitive = some r ∧ limit < r.size := by
  rw [compile]
  cases Regex.ofSource? source caseInsensitive with
  | none => simp
  | some r =>
    by_cases hsize : r.size ≤ limit
    · simp [hsize]
    · simp [hsize, Nat.lt_of_not_le hsize, eq_comm]

namespace Matcher

variable {text : String} {options : Options} {e : CompileError}

theorem ne_tooLarge_of_bindSlots {r : Regex Atom} {n limit : Nat} {names : List String} :
    bindSlots r n names ≠ .error (.tooLarge limit) := by
  induction names generalizing n with
  | nil => exact nofun
  | cons name names ih =>
    rw [bindSlots]
    cases r.groupNamed? (Pattern.slotName n) with
    | none => exact nofun
    | some group =>
      intro h
      cases hrest : bindSlots r (n + 1) names with
      | ok slots =>
        rw [hrest] at h
        cases h
      | error e =>
        rw [hrest] at h
        cases h
        exact ih hrest

/-- A constraint is refused for what compiling it by itself gives. -/
theorem exists_of_checkConstraints {cs : List (String × String)}
    (h : (checkConstraints text cs).outcome = .error e) :
    ∃ c ∈ cs, ∃ e', CompiledRegex.compile c.2 = .error e' ∧ e = .regex text c.2 e' := by
  induction cs with
  | nil => cases h
  | cons c cs ih =>
    obtain ⟨name, raw⟩ := c
    rw [checkConstraints] at h
    split at h
    · obtain ⟨c, hc, he⟩ := ih h
      exact ⟨c, List.mem_cons_of_mem _ hc, he⟩
    · next e' he' =>
      cases h
      exact ⟨_, List.mem_cons_self, e', he', rfl⟩

/-- A regex that takes too much room is a constraint by itself, weighed against the default, or the
source of the whole pattern, weighed against the limit of the options. -/
theorem tooLarge_cases {pattern source : String} {limit : Nat}
    (h : (compile text options).outcome = .error (.regex pattern source (.tooLarge limit))) :
    ∃ p, (Pattern.parse text options).outcome = .ok p ∧
      ((∃ c ∈ p.constraints, ∃ r, Regex.ofSource? c.2 = some r ∧ defaultSizeLimit < r.size) ∨
        limit = options.regexLimit ∧
          ∃ r, Regex.ofSource? p.source options.caseInsensitive = some r ∧ limit < r.size) := by
  -- The stages in order. Only two of them fail like this.
  obtain h | ⟨_, -, h⟩ := Traced.of_bind_eq_error h
  · cases h
  obtain h | ⟨_, -, h⟩ := Traced.of_bind_eq_error h
  · rw [Traced.outcome_ofExcept] at h
    cases hvalid : options.validate <;> rw [hvalid] at h <;> cases h
  obtain h | ⟨p, hp, h⟩ := Traced.of_bind_eq_error h
  · rw [Traced.outcome_mapError] at h
    cases hp : (Pattern.parse text options).outcome <;> rw [hp] at h <;> cases h
  refine ⟨p, Traced.of_mapError_eq_ok hp, ?_⟩
  obtain h | ⟨_, -, h⟩ := Traced.of_bind_eq_error h
  · obtain ⟨c, hc, e', he', h⟩ := exists_of_checkConstraints h
    cases h
    exact .inl ⟨c, hc, (CompiledRegex.compile_eq_tooLarge_iff.1 he').2⟩
  obtain h | ⟨regex, -, h⟩ := Traced.of_bind_eq_error h
  · rw [Traced.outcome_ofExcept] at h
    cases hregex : CompiledRegex.compile p.source options.caseInsensitive options.regexLimit with
    | ok regex =>
      rw [hregex] at h
      cases h
    | error e' =>
      rw [hregex] at h
      cases h
      obtain ⟨rfl, hr⟩ := CompiledRegex.compile_eq_tooLarge_iff.1 hregex
      exact .inr ⟨rfl, hr⟩
  obtain h | ⟨slots, -, h⟩ := Traced.of_bind_eq_error h
  · rw [Traced.outcome_ofExcept] at h
    cases hslots : bindSlots regex.regex 0 p.variableNames with
    | ok slots =>
      rw [hslots] at h
      cases h
    | error e' =>
      rw [hslots] at h
      cases h
      exact absurd hslots ne_tooLarge_of_bindSlots
  · cases h

/-- If no constraint by itself exceeds the default, the limit of the options is the one that counts:
no other is reported, and a pattern whose source keeps to it is not rejected for its size. -/
theorem size_limit_governs {limit : UInt64} (hlimit : options.sizeLimit = some limit)
    (hconstraints : ∀ p, (Pattern.parse text options).outcome = .ok p → ∀ c ∈ p.constraints,
      ∀ r, Regex.ofSource? c.2 = some r → r.size ≤ defaultSizeLimit) :
    (∀ pattern source n,
      (compile text options).outcome = .error (.regex pattern source (.tooLarge n)) →
        n = limit.toNat) ∧
    ((∀ p, (Pattern.parse text options).outcome = .ok p →
        ∀ r, Regex.ofSource? p.source options.caseInsensitive = some r → r.size ≤ limit.toNat) →
      ∀ pattern source n,
        (compile text options).outcome ≠ .error (.regex pattern source (.tooLarge n))) := by
  have hregexLimit : options.regexLimit = limit.toNat := by
    rw [Options.regexLimit, hlimit]
    rfl
  -- What takes too much room is the source of the whole pattern, since no constraint does.
  have hcases {pattern source : String} {n : Nat}
      (h : (compile text options).outcome = .error (.regex pattern source (.tooLarge n))) :
      n = limit.toNat ∧ ∃ p, (Pattern.parse text options).outcome = .ok p ∧
        ∃ r, Regex.ofSource? p.source options.caseInsensitive = some r ∧ n < r.size := by
    obtain ⟨p, hp, ⟨c, hc, r, hr, hlarge⟩ | ⟨hn, hlarge⟩⟩ := tooLarge_cases h
    · exact absurd (hconstraints p hp c hc r hr) (Nat.not_le.2 hlarge)
    · exact ⟨hn.trans hregexLimit, p, hp, hlarge⟩
  constructor
  · intro pattern source n h
    exact (hcases h).1
  · intro hfits pattern source n h
    obtain ⟨rfl, p, hp, r, hr, hlarge⟩ := hcases h
    exact absurd (hfits p hp r hr) (Nat.not_le.2 hlarge)

/-- Limits below and above the size of a pattern with a constraint. -/
theorem size_limit_governs_digits :
    (∃ pattern source n, (compile "\x7bn:[0-9]+\x7d" { sizeLimit := some 300 }).outcome =
        .error (.regex pattern source (.tooLarge n)) ∧ n = 300) ∧
      ∀ pattern source n, (compile "\x7bn:[0-9]+\x7d" { sizeLimit := some 1000 }).outcome ≠
        .error (.regex pattern source (.tooLarge n)) := by
  have hlimit (limit : UInt64) : ({ sizeLimit := some limit } : Options).sizeLimit = some limit :=
    rfl
  have hparse (limit : UInt64) :
      (Pattern.parse "\x7bn:[0-9]+\x7d" { sizeLimit := some limit }).outcome =
        .ok (.seq (.var ⟨"n", some "[0-9]+"⟩) .empty) := rfl
  have hsizes : ((Regex.ofSource? "[0-9]+").all fun r => r.size ≤ defaultSizeLimit) = true ∧
      ((Regex.ofSource? (Pattern.seq (.var ⟨"n", some "[0-9]+"⟩) .empty).source).all
        fun r => r.size ≤ 1000) = true := by
    decide +kernel
  have hconstraints (limit : UInt64) (p : Pattern)
      (hp : (Pattern.parse "\x7bn:[0-9]+\x7d" { sizeLimit := some limit }).outcome = .ok p) :
      ∀ c ∈ p.constraints, ∀ r, Regex.ofSource? c.2 = some r → r.size ≤ defaultSizeLimit := by
    obtain rfl := Except.ok.inj ((hparse limit).symm.trans hp)
    intro c hc r hr
    obtain rfl := List.mem_singleton.1 hc
    exact of_decide_eq_true ((Option.all_eq_true _ _).1 hsizes.1 r hr)
  constructor
  · have hfails : (compile "\x7bn:[0-9]+\x7d" { sizeLimit := some 300 }).outcome = .error (.regex
        "\x7bn:[0-9]+\x7d" "^(?:(?P<__var0>[0-9]+))$" (.tooLarge 300)) := by rfl
    exact ⟨_, _, _, hfails, (size_limit_governs (hlimit 300) (hconstraints 300)).1 _ _ _ hfails⟩
  · refine (size_limit_governs (hlimit 1000) (hconstraints 1000)).2 fun p hp r hr => ?_
    obtain rfl := Except.ok.inj ((hparse 1000).symm.trans hp)
    exact of_decide_eq_true ((Option.all_eq_true _ _).1 hsizes.2 r hr)

/-- A constraint is weighed against the default even if the options allow for more. -/
theorem size_limit_not_governs :
    ({ sizeLimit := some 1000000000 } : Options).validate = .ok () ∧
    (Pattern.parse "\x7bx:a\x7b2000000\x7d\x7d" { sizeLimit := some 1000000000 }).outcome =
      .ok (.seq (.var ⟨"x", some "a\x7b2000000\x7d"⟩) .empty) ∧
    (∃ r, Regex.ofSource? "a\x7b2000000\x7d" = some r ∧ r.size ≤ 1000000000) ∧
    (∃ r, Regex.ofSource? (Pattern.seq (.var ⟨"x", some "a\x7b2000000\x7d"⟩) .empty).source =
      some r ∧ r.size ≤ 1000000000) ∧
    (compile "\x7bx:a\x7b2000000\x7d\x7d" { sizeLimit := some 1000000000 }).outcome =
      .error (.regex "\x7bx:a\x7b2000000\x7d\x7d" "a\x7b2000000\x7d" (.tooLarge 10485760)) := by
  have hsizes : ((Regex.ofSource? "a\x7b2000000\x7d").any fun r => r.size ≤ 1000000000) = true ∧
      ((Regex.ofSource? (Pattern.seq (.var ⟨"x", some "a\x7b2000000\x7d"⟩) .empty).source).any
        fun r => r.size ≤ 1000000000) = true := by
    decide +kernel
  obtain ⟨r, hr, hsize⟩ := (Option.any_eq_true _ _).1 hsizes.1
  obtain ⟨s, hs, hsize'⟩ := (Option.any_eq_true _ _).1 hsizes.2
  exact ⟨rfl, rfl, ⟨r, hr, of_decide_eq_true hsize⟩, ⟨s, hs, of_decide_eq_true hsize'⟩, rfl⟩

end Matcher

end PathGlob
