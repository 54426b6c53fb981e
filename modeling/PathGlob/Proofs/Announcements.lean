-- SUMMARY: What compiling a pattern announces, entry by entry.
import Mathlib.Data.List.Dedup
import PathGlob.Proofs.Pattern.DuplicatePolicies
import PathGlob.Proofs.Pattern.Participation

/-!
# Announcements of a compilation

The log of a compilation falls into the stages that were entered, the names that were declared
again, the constraint that was refused, and the matcher. Each part is said without the others, and
`log_compile` puts them together.
-/

namespace PathGlob

namespace Pattern

/-! ## Repeated names -/

/-- The names that also stand earlier among some names, in order. -/
def repeats (names : List String) : List String :=
  (List.range names.length).filterMap fun j =>
    names[j]?.filter fun name => name ∈ names.take j

theorem repeats_concat (names : List String) (name : String) :
    repeats (names ++ [name]) = repeats names ++ [name].filter (· ∈ names) := by
  rw [repeats, List.length_append, List.length_singleton, List.range_succ, List.filterMap_append,
    repeats]
  congr 1
  · refine List.filterMap_congr fun j hj => ?_
    have hlt : j < names.length := List.mem_range.1 hj
    rw [List.getElem?_append_left hlt, List.take_append_of_le_length (Nat.le_of_lt hlt)]
  · by_cases h : name ∈ names <;> simp [Option.filter, h]

/-- Every name but the first of its kind repeats one. -/
theorem length_repeats_add_length_dedup (names : List String) :
    (repeats names).length + names.dedup.length = names.length := by
  induction names using List.reverseRecOn with
  | nil => rfl
  | append_singleton names name ih =>
    have hperm : (names ++ [name]).Perm (name :: names) := List.perm_append_singleton name names
    rw [repeats_concat, hperm.dedup.length_eq, List.length_append, List.length_append,
      List.length_singleton]
    by_cases h : name ∈ names
    · rw [List.dedup_cons_of_mem h, List.filter_cons_of_pos (by simpa using h)]
      simp only [List.filter_nil, List.length_cons, List.length_nil]
      omega
    · rw [List.dedup_cons_of_notMem h, List.filter_cons_of_neg (by simpa using h)]
      simp only [List.filter_nil, List.length_cons, List.length_nil]
      omega

/-- What is announced of the repetitions among some names. -/
def repeatEntries : DuplicatePolicy → List String → List Entry
  | .lastWins, names => (repeats names).map fun name => .event (.duplicateVariable name)
  | .reject, _ => []

@[simp] theorem repeatEntries_nil (policy : DuplicatePolicy) : repeatEntries policy [] = [] := by
  cases policy <;> rfl

/-! ## Items that are taken -/

namespace Outline

/-- The items that are taken before the first that is refused. -/
def taken (policy : DuplicatePolicy) : Outline → List (Located Item) → List (Located Item)
  | _, [] => []
  | o, x :: items => match (o.step policy x).outcome with
    | .ok o' => x :: o'.taken policy items
    | .error _ => []

variable {policy : DuplicatePolicy} {o o' : Outline} {x : Located Item} {f : Fault}
  {items : List (Located Item)}

theorem taken_of_steps (h : (o.steps policy items).outcome = .ok o') :
    o.taken policy items = items := by
  induction items generalizing o with
  | nil => rfl
  | cons x items ih =>
    obtain ⟨o₁, hx, hitems⟩ := Traced.exists_of_bind_eq_ok h
    rw [taken, hx]
    exact congrArg (x :: ·) (ih hitems)

/-- A declaration that is taken is announced if its name is a repetition that is permitted. -/
theorem log_declare (o : Outline) (start : Nat) (d : Declaration) :
    (o.declare policy start d).log = match policy, (o.declare policy start d).outcome with
      | .lastWins, .ok _ =>
        ([d.name].filter (· ∈ o.names)).map fun name => .event (.duplicateVariable name)
      | _, _ => [] := by
  have hany : o.declared.any (·.name = d.name) = decide (d.name ∈ o.names) := by
    simp [names, List.any_eq]
  rw [declare, Traced.log_bind, Traced.outcome_bind, Traced.outcome_ofExcept, hany]
  cases Declaration.check start d with
  | error e => cases policy <;> rfl
  | ok u =>
    by_cases hmem : d.name ∈ o.names
    · cases policy with
      | reject => simp [hmem, Traced.log_bind]
      | lastWins => simp [hmem, Traced.log_bind, Traced.outcome_bind, Except.bind]
    · cases policy <;> simp [hmem, Except.bind]

theorem log_step_of_error (h : (o.step policy x).outcome = .error f) :
    (o.step policy x).log = [] := by
  obtain ⟨i, item⟩ := x
  cases item with
  | declaration name constraint =>
    change (o.declare policy i ⟨name, constraint⟩).outcome = .error f at h
    rw [step, log_declare, h]
    cases policy <;> rfl
  | _ => rfl

theorem log_step_of_ok (h : (o.step policy x).outcome = .ok o') :
    repeatEntries policy o'.names = repeatEntries policy o.names ++ (o.step policy x).log := by
  rw [names_of_step h]
  obtain ⟨i, item⟩ := x
  cases item with
  | declaration name constraint =>
    change (o.declare policy i ⟨name, constraint⟩).outcome = .ok o' at h
    rw [step, log_declare, h]
    cases policy with
    | lastWins => exact (congrArg _ (repeats_concat o.names name)).trans List.map_append
    | reject => rfl
  | _ => exact (congrArg _ (List.append_nil _)).trans (List.append_nil _).symm

/-- Only names that are declared again are announced, up to the first item that is refused. -/
theorem log_steps (policy : DuplicatePolicy) (o : Outline) (items : List (Located Item)) :
    repeatEntries policy o.names ++ (o.steps policy items).log =
      repeatEntries policy (o.names ++ declaredNames (o.taken policy items)) := by
  induction items generalizing o with
  | nil => simp [steps, taken, declaredNames]
  | cons x items ih =>
    rw [steps, taken, Traced.log_bind]
    cases hx : (o.step policy x).outcome with
    | error f =>
      rw [log_step_of_error hx]
      simp [declaredNames]
    | ok o₁ =>
      have hnames : o₁.names ++ declaredNames (o₁.taken policy items) =
          o.names ++ declaredNames (x :: o₁.taken policy items) := by
        rw [names_of_step hx, List.append_assoc, ← declaredNames_append, List.singleton_append]
      rw [← List.append_assoc, ← log_step_of_ok hx, ih, hnames]

end Outline

/-! ## Parsing -/

/-- The names whose declarations are completed while a text is parsed, in order. -/
def completedNames (policy : DuplicatePolicy) (text : String) : List String :=
  match scan 0 text.toList with
  | .ok items => declaredNames (Outline.taken policy {} items)
  | .error _ => []

variable {text : String} {options : Options} {p : Pattern}

theorem completedNames_of_parse (h : (parse text options).outcome = .ok p) :
    completedNames options.duplicates text = p.variableNames := by
  obtain ⟨-, o, hread, hfinish⟩ := outcome_parse_eq_ok_iff.1 h
  obtain ⟨items, hscan, hsteps⟩ := Outline.read_eq_ok_iff.1 hread
  have hnames := Outline.names_of_steps hsteps
  rw [Outline.names, (spells_of_read hread hfinish).2, List.map_reverse, List.reverse_reverse]
    at hnames
  rw [completedNames, hscan]
  dsimp only
  rw [Outline.taken_of_steps hsteps]
  exact hnames.symm

/-- A text is tokenized, and the repetitions among its names are announced. -/
theorem log_itemsOf_bind (policy : DuplicatePolicy) (text : String) :
    (itemsOf text >>= ofScan policy).log =
      .span (.tokenize text.utf8ByteSize) :: repeatEntries policy (completedNames policy text) := by
  have hlog : (itemsOf text).log = [.span (.tokenize text.utf8ByteSize)] := rfl
  have houtcome : (itemsOf text).outcome = scan 0 text.toList := rfl
  rw [Traced.log_bind, hlog, houtcome, completedNames]
  cases scan 0 text.toList with
  | error f => simp
  | ok items =>
    have hsteps := Outline.log_steps policy {} items
    rw [show Outline.names {} = [] from rfl, repeatEntries_nil, List.nil_append,
      List.nil_append] at hsteps
    dsimp only
    rw [ofScan, Traced.log_bind, hsteps]
    cases (Outline.steps policy {} items).outcome <;> simp

theorem log_parse (text : String) (options : Options) :
    (parse text options).log = .span (.parse text.utf8ByteSize) ::
      if text.utf8ByteSize ≤ options.maxPatternLength.toNat then
        .span (.tokenize text.utf8ByteSize) ::
          repeatEntries options.duplicates (completedNames options.duplicates text)
      else [] := by
  rw [← log_itemsOf_bind]
  by_cases hlong : options.maxPatternLength.toNat < text.utf8ByteSize
  · rw [if_neg (Nat.not_le.2 hlong), parse, if_pos hlong]
    rfl
  · rw [if_pos (Nat.not_lt.1 hlong), parse, if_neg hlong]
    rfl

end Pattern

/-! ## Compiling -/

namespace Matcher

/-- The stages that are entered when a text is compiled. -/
def stageEntries (text : String) (options : Options) : List Entry :=
  .span (.compile text.utf8ByteSize) ::
    if options.validate.isOk then
      .span (.parse text.utf8ByteSize) ::
        if text.utf8ByteSize ≤ options.maxPatternLength.toNat then
          [.span (.tokenize text.utf8ByteSize)]
        else []
    else []

/-- The repeated names that are announced, if the options are valid and permit the text's length. -/
def repeatedEntries (text : String) (options : Options) : List Entry :=
  if options.validate.isOk ∧ text.utf8ByteSize ≤ options.maxPatternLength.toNat then
    Pattern.repeatEntries options.duplicates (Pattern.completedNames options.duplicates text)
  else []

/-- The first of some constraints that is no regex by itself. -/
def rejectedConstraint? (cs : List (String × String)) : Option (String × String) :=
  cs.find? fun c => !(CompiledRegex.compile c.2).isOk

/-- The constraint that is announced as refused, if the options are valid and the text a pattern. -/
def rejectedEntries (text : String) (options : Options) : List Entry :=
  match options.validate, (Pattern.parse text options).outcome with
  | .ok _, .ok p =>
    (rejectedConstraint? p.constraints).toList.map fun c => .event (.rejectedConstraint c.1 c.2)
  | _, _ => []

/-- What is announced of the matcher that a compilation comes to. -/
def matcherEntries : Except CompileError Matcher → List Entry
  | .ok m => [.event (.compiledPattern m.variableNames.length m.source)]
  | .error _ => []

/-- The last stages, for a pattern whose constraints are regexes. -/
def build (text : String) (options : Options) (p : Pattern) : Traced CompileError Matcher := do
  let rejected := CompileError.regex text p.source
  let regex ← Traced.ofExcept <|
    (CompiledRegex.compile p.source options.caseInsensitive options.regexLimit).mapError rejected
  let slots ← Traced.ofExcept ((bindSlots regex.regex 0 p.variableNames).mapError rejected)
  Traced.report (.compiledPattern slots.length regex.source)
  return ⟨regex, slots⟩

variable {text : String} {options : Options} {p : Pattern} {m : Matcher}

theorem log_checkConstraints (pattern : String) (cs : List (String × String)) :
    (checkConstraints pattern cs).log =
      (rejectedConstraint? cs).toList.map fun c => .event (.rejectedConstraint c.1 c.2) := by
  induction cs with
  | nil => rfl
  | cons c cs ih =>
    obtain ⟨name, raw⟩ := c
    rw [checkConstraints, rejectedConstraint?, List.find?_cons]
    cases CompiledRegex.compile raw with
    | ok r => exact ih
    | error e => rfl

theorem log_build (text : String) (options : Options) (p : Pattern) :
    (build text options p).log = matcherEntries (build text options p).outcome := by
  rw [build, Traced.log_bind, Traced.outcome_bind, Traced.log_ofExcept, Traced.outcome_ofExcept]
  cases CompiledRegex.compile p.source options.caseInsensitive options.regexLimit with
  | error e => rfl
  | ok regex =>
    dsimp only [Except.mapError, Except.bind]
    rw [Traced.log_bind, Traced.outcome_bind, Traced.log_ofExcept, Traced.outcome_ofExcept]
    cases bindSlots regex.regex 0 p.variableNames with
    | error e => rfl
    | ok slots =>
      simp [Except.bind, matcherEntries, variableNames, source, Traced.log_bind,
        Traced.outcome_bind]

theorem log_checkConstraints_bind (text : String) (options : Options) (p : Pattern) :
    (checkConstraints text p.constraints >>= fun _ => build text options p).log =
      ((rejectedConstraint? p.constraints).toList.map fun c =>
        .event (.rejectedConstraint c.1 c.2)) ++
      matcherEntries (checkConstraints text p.constraints >>= fun _ =>
        build text options p).outcome := by
  rw [Traced.log_bind, Traced.outcome_bind, log_checkConstraints]
  cases (checkConstraints text p.constraints).outcome with
  | error e => rfl
  | ok u => exact congrArg _ (log_build text options p)

theorem stageEntries_append_repeatedEntries (text : String) (options : Options) :
    stageEntries text options ++ repeatedEntries text options =
      .span (.compile text.utf8ByteSize) ::
        if options.validate.isOk then (Pattern.parse text options).log else [] := by
  rw [stageEntries, repeatedEntries, Pattern.log_parse]
  by_cases hvalid : options.validate.isOk
  · by_cases hlength : text.utf8ByteSize ≤ options.maxPatternLength.toNat <;>
      simp [hvalid, hlength]
  · simp [hvalid]

theorem log_compile (text : String) (options : Options) :
    (compile text options).log = stageEntries text options ++ repeatedEntries text options ++
      rejectedEntries text options ++ matcherEntries (compile text options).outcome := by
  have hcompile : compile text options = (do
    Traced.enter (.compile text.utf8ByteSize)
    Traced.ofExcept (options.validate.mapError .options)
    let p ← (Pattern.parse text options).mapError .pattern
    checkConstraints text p.constraints
    build text options p) := rfl
  rw [stageEntries_append_repeatedEntries, rejectedEntries, hcompile,
    Traced.bind_of_ok (Traced.outcome_enter _)]
  -- Where a stage fails, no later part announces anything.
  cases options.validate with
  | error e => rfl
  | ok u =>
    rw [Traced.bind_of_ok (a := u) rfl]
    cases hparse : (Pattern.parse text options).outcome with
    | error e =>
      rw [Traced.bind_of_error (e := .pattern e) (by rw [Traced.outcome_mapError, hparse]; rfl)]
      simp [matcherEntries, Except.isOk, Except.toBool]
    | ok p =>
      rw [Traced.bind_of_ok (a := p) (by rw [Traced.outcome_mapError, hparse]; rfl),
        log_checkConstraints_bind]
      simp [Except.isOk, Except.toBool]

/-! ## Kinds of announcements -/

theorem eq_span_of_mem_stageEntries {entry : Entry} (h : entry ∈ stageEntries text options) :
    ∃ s, entry = .span s := by
  rw [stageEntries] at h
  split at h
  · split at h <;> simp only [List.mem_cons, List.not_mem_nil, or_false] at h
    · rcases h with rfl | rfl | rfl <;> exact ⟨_, rfl⟩
    · rcases h with rfl | rfl <;> exact ⟨_, rfl⟩
  · exact ⟨_, List.mem_singleton.1 h⟩

theorem eq_rejectedConstraint_of_mem_rejectedEntries {entry : Entry}
    (h : entry ∈ rejectedEntries text options) :
    ∃ name raw, entry = .event (.rejectedConstraint name raw) := by
  rw [rejectedEntries] at h
  split at h
  · obtain ⟨c, -, rfl⟩ := List.mem_map.1 h
    exact ⟨c.1, c.2, rfl⟩
  · cases h

theorem eq_compiledPattern_of_mem_matcherEntries {entry : Entry}
    {outcome : Except CompileError Matcher} (h : entry ∈ matcherEntries outcome) :
    ∃ n source, entry = .event (.compiledPattern n source) := by
  cases outcome with
  | ok m => exact ⟨_, _, List.mem_singleton.1 h⟩
  | error e => cases h

theorem eq_duplicateVariable_of_mem_repeatedEntries {entry : Entry}
    (h : entry ∈ repeatedEntries text options) :
    ∃ name, entry = .event (.duplicateVariable name) := by
  rw [repeatedEntries] at h
  split at h
  · cases hpolicy : options.duplicates with
    | lastWins =>
      rw [hpolicy] at h
      obtain ⟨name, -, rfl⟩ := List.mem_map.1 h
      exact ⟨name, rfl⟩
    | reject =>
      rw [hpolicy] at h
      cases h
  · cases h

/-- A compilation announces nothing of sets and caches. -/
theorem mem_log_compile {entry : Entry} (h : entry ∈ (compile text options).log) :
    (∃ s, entry = .span s) ∨ (∃ name, entry = .event (.duplicateVariable name)) ∨
      (∃ name raw, entry = .event (.rejectedConstraint name raw)) ∨
      ∃ n source, entry = .event (.compiledPattern n source) := by
  rw [log_compile, List.mem_append, List.mem_append, List.mem_append] at h
  rcases h with ((h | h) | h) | h
  · exact .inl (eq_span_of_mem_stageEntries h)
  · exact .inr (.inl (eq_duplicateVariable_of_mem_repeatedEntries h))
  · exact .inr (.inr (.inl (eq_rejectedConstraint_of_mem_rejectedEntries h)))
  · exact .inr (.inr (.inr (eq_compiledPattern_of_mem_matcherEntries h)))

end Matcher

/-- The name that an entry announces as declared again, if it does. -/
def Entry.repeatedName? : Entry → Option String
  | .event (.duplicateVariable name) => some name
  | _ => none

namespace Matcher

variable {text : String} {options : Options} {m : Matcher}

/-- A matcher keeps what was read of its pattern. -/
theorem exists_pattern_of_compile (h : (compile text options).outcome = .ok m) :
    ∃ p, (Pattern.parse text options).outcome = .ok p ∧ m.source = p.source ∧
      m.variableNames = p.variableNames := by
  obtain ⟨-, p, hp, -, hregex, hslots⟩ := outcome_compile_eq_ok_iff.1 h
  exact ⟨p, hp, (CompiledRegex.compile_eq_ok_iff.1 hregex).1, names_of_bindSlots hslots⟩

theorem repeatedNames_log_compile (h : (compile text options).outcome = .ok m)
    (hpolicy : options.duplicates = .lastWins) :
    (compile text options).log.filterMap Entry.repeatedName? =
      Pattern.repeats m.variableNames := by
  obtain ⟨p, hp, -, hnames⟩ := exists_pattern_of_compile h
  have hvalid := (outcome_compile_eq_ok_iff.1 h).1
  have hlength := (Pattern.outcome_parse_eq_ok_iff.1 hp).1
  have hstages : (stageEntries text options).filterMap Entry.repeatedName? = [] :=
    List.filterMap_eq_nil_iff.2 fun entry hentry => by
      obtain ⟨s, rfl⟩ := eq_span_of_mem_stageEntries hentry
      rfl
  have hrejected : (rejectedEntries text options).filterMap Entry.repeatedName? = [] :=
    List.filterMap_eq_nil_iff.2 fun entry hentry => by
      obtain ⟨name, raw, rfl⟩ := eq_rejectedConstraint_of_mem_rejectedEntries hentry
      rfl
  have hrepeated : repeatedEntries text options =
      (Pattern.repeats m.variableNames).map fun name => .event (.duplicateVariable name) := by
    rw [repeatedEntries, hvalid, if_pos ⟨rfl, hlength⟩, Pattern.completedNames_of_parse hp, hpolicy,
      hnames]
    rfl
  rw [log_compile, h, List.filterMap_append, List.filterMap_append, List.filterMap_append, hstages,
    hrejected, hrepeated, List.filterMap_map, List.nil_append, List.append_nil]
  exact (List.append_nil _).trans (List.filterMap_some ..)

/-- A compilation announces the stages that it enters, then each name whose declaration repeats one
and is completed, if that is permitted, then the first constraint that is no regex by itself, and
last the matcher that it comes to. If there is one, as many repetitions have been announced as there
are declarations beyond the first of each name. -/
theorem compile_announces (text : String) (options : Options) :
    (compile text options).log = stageEntries text options ++ repeatedEntries text options ++
      rejectedEntries text options ++ matcherEntries (compile text options).outcome ∧
    ∀ m, (compile text options).outcome = .ok m →
      (∃ p, (Pattern.parse text options).outcome = .ok p ∧ m.source = p.source ∧
        m.variableNames = p.variableNames) ∧
      (options.duplicates = .lastWins →
        ((compile text options).log.filterMap Entry.repeatedName?).length +
          m.variableNames.dedup.length = m.variableNames.length) := by
  refine ⟨log_compile text options, fun m hm => ⟨exists_pattern_of_compile hm, fun hpolicy => ?_⟩⟩
  rw [repeatedNames_log_compile hm hpolicy]
  exact Pattern.length_repeats_add_length_dedup m.variableNames

/-- The second `a` is announced, and only that. -/
theorem compile_announces_repetition :
    ∃ m, (compile "{a}{b}{a}").outcome = .ok m ∧ m.variableNames = ["a", "b", "a"] ∧
      ((compile "{a}{b}{a}").log.filterMap Entry.repeatedName?).length = 1 := by
  have hcompiles : compiles "{a}{b}{a}" (fun m => m.variableNames = ["a", "b", "a"]) = true := by
    decide +kernel
  obtain ⟨m, hm, hnames⟩ := exists_of_compiles hcompiles
  have hnames : m.variableNames = ["a", "b", "a"] := of_decide_eq_true hnames
  have hcount := ((compile_announces "{a}{b}{a}" {}).2 m hm).2 rfl
  rw [hnames] at hcount
  exact ⟨m, hm, hnames, Nat.add_right_cancel (m := 2) hcount⟩

end Matcher

end PathGlob
