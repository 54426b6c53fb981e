-- SUMMARY: Refusing repeated names changes nothing but the answer to a pattern that repeats one.
import Mathlib.Data.List.Induction
import PathGlob.Proofs.Pattern.Acceptance
import PathGlob.Proofs.Pattern.Tokens

/-!
# Duplicate policies

The policies are compared item by item: they differ on a declaration that is taken and whose name
was declared before. Up to the first of these, both runs are at the same outline.
-/

namespace PathGlob.Pattern

/-! ## Names that are declared -/

/-- The names that some items declare, in order, repetitions included. -/
def declaredNames : List (Located Item) → List String
  | [] => []
  | ⟨_, .declaration name _⟩ :: items => name :: declaredNames items
  | _ :: items => declaredNames items

/-- A name stands at a position and before it, and no position before has such a name. -/
structure IsFirstRepeat (names : List String) (j : Nat) (name : String) : Prop where
  stands : names[j]? = some name
  repeats : name ∈ names.take j
  first : ∀ k < j, ∀ other, names[k]? = some other → other ∉ names.take k

theorem declaredNames_append (xs ys : List (Located Item)) :
    declaredNames (xs ++ ys) = declaredNames xs ++ declaredNames ys := by
  induction xs with
  | nil => rfl
  | cons x xs ih =>
    obtain ⟨i, item⟩ := x
    cases item with
    | declaration name constraint => exact congrArg (name :: ·) ih
    | _ => exact ih

theorem isFirstRepeat_append {before after : List String} {name : String} (hnodup : before.Nodup)
    (hmem : name ∈ before) : IsFirstRepeat (before ++ name :: after) before.length name where
  stands := by simp
  repeats := by simpa using hmem
  first := by
    intro k hk other hother htake
    rw [List.take_append_of_le_length (Nat.le_of_lt hk)] at htake
    rw [List.getElem?_append_left hk] at hother
    obtain ⟨i, hi, heq⟩ := List.getElem_of_mem htake
    obtain ⟨_, rfl⟩ := List.getElem?_eq_some_iff.1 hother
    rw [List.getElem_take, hnodup.getElem_inj_iff] at heq
    rw [List.length_take] at hi
    omega

/-- Items that declare a name twice have a first declaration that repeats one. -/
theorem exists_repeated_of_not_nodup {items : List (Located Item)}
    (h : ¬ (declaredNames items).Nodup) :
    ∃ read i name constraint rest, items = read ++ ⟨i, .declaration name constraint⟩ :: rest ∧
      (declaredNames read).Nodup ∧ name ∈ declaredNames read := by
  induction items using List.reverseRecOn with
  | nil => exact absurd .nil h
  | append_singleton items x ih =>
    by_cases hitems : (declaredNames items).Nodup
    · rw [declaredNames_append] at h
      obtain ⟨i, item⟩ := x
      cases item with
      | declaration name constraint =>
        refine ⟨items, i, name, constraint, [], rfl, hitems, ?_⟩
        by_contra hfresh
        refine h (List.nodup_append.2 ⟨hitems, List.nodup_singleton name, ?_⟩)
        rintro _ hmem _ hname rfl
        exact hfresh (List.mem_singleton.1 hname ▸ hmem)
      | _ => exact absurd (by simpa [declaredNames] using hitems) h
    · obtain ⟨read, i, name, constraint, rest, rfl, hread, hname⟩ := ih hitems
      exact ⟨read, i, name, constraint, rest ++ [x], by simp, hread, hname⟩

namespace Outline

variable {o o' : Outline} {x : Located Item} {f : Fault} {items : List (Located Item)}
  {policy : DuplicatePolicy}

/-- The names that an outline has met, first one first. -/
def names (o : Outline) : List String := (o.declared.map Declaration.name).reverse

theorem names_of_step (h : (o.step policy x).outcome = .ok o') :
    o'.names = o.names ++ declaredNames [x] := by
  cases taken_of_step h with
  | declaration => simp [names, declaredNames]
  | _ => exact (List.append_nil _).symm

theorem names_of_steps (h : (o.steps policy items).outcome = .ok o') :
    o'.names = o.names ++ declaredNames items := by
  induction items generalizing o with
  | nil =>
    cases h
    simp [declaredNames]
  | cons x items ih =>
    obtain ⟨o₁, hx, hitems⟩ := exists_of_steps_cons h
    rw [ih hitems, names_of_step hx, List.append_assoc, ← declaredNames_append]
    rfl

/-! ## The policies on one item -/

/-- What is refused although names may be repeated is refused for the same reason otherwise. -/
theorem step_reject_of_error (h : (o.step .lastWins x).outcome = .error f) :
    (o.step .reject x).outcome = .error f := by
  obtain ⟨i, item⟩ := x
  cases item with
  | declaration name constraint =>
    simp only [step, declare, Traced.outcome_bind, Traced.outcome_ofExcept] at h ⊢
    cases hcheck : Declaration.check i ⟨name, constraint⟩ with
    | error e => rwa [hcheck] at h
    | ok _ =>
      rw [hcheck] at h
      dsimp only [Except.bind] at h
      split at h <;> cases h
  | _ => exact h

theorem step_reject_of_fresh (h : (o.step .lastWins x).outcome = .ok o')
    (hfresh : ∀ name ∈ declaredNames [x], name ∉ o.names) :
    (o.step .reject x).outcome = .ok o' := by
  cases taken_of_step h with
  | declaration hname hconstraint =>
    refine (Taken.declaration hname hconstraint fun _ hmem => ?_).step
    exact hfresh _ List.mem_cons_self (List.mem_reverse.2 hmem)
  | _ => exact h

theorem step_reject_of_repeated {i : Nat} {name : String} {constraint : Option String}
    (h : (o.step .lastWins ⟨i, .declaration name constraint⟩).outcome = .ok o')
    (hmem : name ∈ o.names) :
    (o.step .reject ⟨i, .declaration name constraint⟩).outcome =
      .error (.duplicateVariable name) := by
  obtain ⟨hname, hconstraint, -, -⟩ := outcome_declare_eq_ok_iff.1 h
  have hcheck := (Declaration.check_eq_ok_iff i (d := ⟨name, constraint⟩)).2 ⟨hname, hconstraint⟩
  have hany : o.declared.any (·.name = name) = true := by simpa [names] using hmem
  simp [step, declare, Traced.outcome_bind, hcheck, Except.bind, hany]

/-! ## The policies on several items -/

theorem steps_reject_of_nodup (h : (o.steps .lastWins items).outcome = .ok o')
    (hnodup : o'.names.Nodup) : (o.steps .reject items).outcome = .ok o' := by
  induction items generalizing o with
  | nil => exact h
  | cons x items ih =>
    obtain ⟨o₁, hx, hitems⟩ := exists_of_steps_cons h
    have hfresh : ∀ name ∈ declaredNames [x], name ∉ o.names := by
      rw [names_of_steps hitems, names_of_step hx, List.append_assoc] at hnodup
      exact fun name hname hmem =>
        (List.nodup_append.1 hnodup).2.2 name hmem name (List.mem_append_left _ hname) rfl
    exact steps_cons_of_step (step_reject_of_fresh hx hfresh) (ih hitems)

/-- Items that repeat a name are refused where the first repetition stands. -/
theorem steps_reject_of_repeated (h : (Outline.steps .lastWins {} items).outcome = .ok o)
    (hrepeat : ¬ (declaredNames items).Nodup) (rest : List (Located Item)) :
    ∃ j name, IsFirstRepeat (declaredNames items) j name ∧
      (Outline.steps .reject {} (items ++ rest)).outcome = .error (.duplicateVariable name) := by
  obtain ⟨read, i, name, constraint, after, rfl, hnodup, hmem⟩ :=
    exists_repeated_of_not_nodup hrepeat
  obtain ⟨o₁, hread, hafter⟩ := exists_of_steps_append h
  obtain ⟨o₂, hx, -⟩ := exists_of_steps_cons hafter
  have hnames : o₁.names = declaredNames read := names_of_steps hread
  refine ⟨(declaredNames read).length, name, ?_, ?_⟩
  · rw [declaredNames_append]
    exact isFirstRepeat_append hnodup hmem
  · rw [← hnames] at hnodup hmem
    rw [List.append_assoc, List.cons_append]
    exact steps_append_of_refused (steps_reject_of_nodup hread hnodup)
      (step_reject_of_repeated hx hmem) (after ++ rest)

end Outline

/-! ## Whole texts -/

/-- Where the items of a text turn out not to be a pattern although names may be repeated: at an
item, or at the end because a group is open. What was taken before is `read`. -/
inductive FailsAfter (items read : List (Located Item)) (f : Fault) : Prop
  | atItem {x : Located Item} {rest : List (Located Item)} {o : Outline} :
      items = read ++ x :: rest → (Outline.steps .lastWins {} read).outcome = .ok o →
      (o.step .lastWins x).outcome = .error f → FailsAfter items read f
  | atEnd {o : Outline} :
      items = read → (Outline.steps .lastWins {} read).outcome = .ok o → o.finish = .error f →
      FailsAfter items read f

variable {text : String} {options : Options} {items read : List (Located Item)} {f : Fault}

/-- Items that are no pattern are taken up to a point. -/
theorem exists_failsAfter
    (h : (Outline.steps .lastWins {} items).outcome.bind Outline.finish = .error f) :
    ∃ read, FailsAfter items read f := by
  cases hsteps : (Outline.steps .lastWins {} items).outcome with
  | error e =>
    rw [hsteps] at h
    cases h
    obtain ⟨read, x, rest, o, hitems, hread, hx⟩ := Outline.exists_refused_of_steps hsteps
    exact ⟨read, .atItem hitems hread hx⟩
  | ok o =>
    rw [hsteps] at h
    exact ⟨items, .atEnd rfl hsteps h⟩

theorem FailsAfter.reject (h : FailsAfter items read f) :
    (Outline.steps .reject {} items).outcome.bind Outline.finish = .error f ∨
      ∃ j name, IsFirstRepeat (declaredNames read) j name ∧
        (Outline.steps .reject {} items).outcome = .error (.duplicateVariable name) := by
  by_cases hnodup : (declaredNames read).Nodup
  · left
    cases h with
    | atItem hitems hread hx =>
      have hnames := Outline.names_of_steps hread
      rw [hitems, Outline.steps_append_of_refused
        (Outline.steps_reject_of_nodup hread (hnames ▸ hnodup)) (Outline.step_reject_of_error hx)]
      rfl
    | atEnd hitems hread hfinish =>
      have hnames := Outline.names_of_steps hread
      rw [hitems, Outline.steps_reject_of_nodup hread (hnames ▸ hnodup)]
      exact hfinish
  · right
    cases h with
    | atItem hitems hread _ =>
      rw [hitems]
      exact Outline.steps_reject_of_repeated hread hnodup _
    | atEnd hitems hread _ =>
      subst hitems
      simpa using Outline.steps_reject_of_repeated hread hnodup []

/-- The items of a pattern declare its variables. -/
theorem declaredNames_eq {p : Pattern} {o : Outline} (hscan : scan 0 text.toList = .ok items)
    (hsteps : (Outline.steps .lastWins {} items).outcome = .ok o) (hfinish : o.finish = .ok p) :
    declaredNames items = p.variableNames := by
  have hread : Outline.read .lastWins {} 0 text.toList = .ok o :=
    Outline.read_eq_ok_iff.2 ⟨items, hscan, hsteps⟩
  have hnames : o.names = declaredNames items := Outline.names_of_steps hsteps
  rw [← hnames, Outline.names, (spells_of_read hread hfinish).2, List.map_reverse,
    List.reverse_reverse, variableNames]

theorem reject_of_finish {p : Pattern} (hscan : scan 0 text.toList = .ok items)
    (h : (Outline.steps .lastWins {} items).outcome.bind Outline.finish = .ok p) :
    p.variableNames.Nodup ∧
        (Outline.steps .reject {} items).outcome.bind Outline.finish = .ok p ∨
      ∃ j name, IsFirstRepeat p.variableNames j name ∧
        (Outline.steps .reject {} items).outcome = .error (.duplicateVariable name) := by
  cases ho : (Outline.steps .lastWins {} items).outcome with
  | error e =>
    rw [ho] at h
    cases h
  | ok o =>
    rw [ho] at h
    have hnames : o.names = declaredNames items := Outline.names_of_steps ho
    rw [← declaredNames_eq hscan ho h]
    by_cases hnodup : (declaredNames items).Nodup
    · left
      rw [Outline.steps_reject_of_nodup ho (hnames ▸ hnodup)]
      exact ⟨hnodup, h⟩
    · right
      simpa using Outline.steps_reject_of_repeated ho hnodup []

/-- A pattern is accepted under either policy if it repeats no name; otherwise the first repetition
is reported by the policy that refuses it. A text that is no pattern gives the same error under both
policies, unless a name is repeated before the point where that error is found. -/
theorem parse_reject (text : String) (options : Options) :
    match (parse text { options with duplicates := .lastWins }).outcome with
    | .ok p =>
      p.variableNames.Nodup ∧
          (parse text { options with duplicates := .reject }).outcome = .ok p ∨
        ∃ j name, IsFirstRepeat p.variableNames j name ∧
          (parse text { options with duplicates := .reject }).outcome =
            .error ⟨text, .duplicateVariable name⟩
    | .error e =>
      (parse text { options with duplicates := .reject }).outcome = .error e ∨
        ∃ items read j name, text.utf8ByteSize ≤ options.maxPatternLength.toNat ∧
          scan 0 text.toList = .ok items ∧
          (tokenize text).outcome = .ok (items.flatMap fun i => locate i.index i.value.tokens) ∧
          FailsAfter items read e.fault ∧ IsFirstRepeat (declaredNames read) j name ∧
          (parse text { options with duplicates := .reject }).outcome =
            .error ⟨text, .duplicateVariable name⟩ := by
  rcases Nat.lt_or_ge options.maxPatternLength.toNat text.utf8ByteSize with hlong | hlength
  · have hparse (policy : DuplicatePolicy) :
        (parse text { options with duplicates := policy }).outcome =
          .error ⟨text, .tooLong text.utf8ByteSize options.maxPatternLength.toNat⟩ :=
      outcome_parse_of_lt hlong
    rw [hparse .lastWins]
    exact .inl (hparse .reject)
  cases hscan : scan 0 text.toList with
  | error f =>
    have hparse (policy : DuplicatePolicy) :
        (parse text { options with duplicates := policy }).outcome = .error ⟨text, f⟩ := by
      have hle := @outcome_parse_of_le text { options with duplicates := policy } hlength
      rw [hle, hscan]
      rfl
    rw [hparse .lastWins]
    exact .inl (hparse .reject)
  | ok items =>
    have hparse (policy : DuplicatePolicy) :
        (parse text { options with duplicates := policy }).outcome =
          ((Outline.steps policy {} items).outcome.bind Outline.finish).mapError (⟨text, ·⟩) :=
      outcome_parse_of_scan hlength hscan
    rw [hparse .lastWins, hparse .reject]
    cases hlast : (Outline.steps .lastWins {} items).outcome.bind Outline.finish with
    | error f =>
      obtain ⟨read, hread⟩ := exists_failsAfter hlast
      obtain hsame | ⟨j, name, hfirst, hreject⟩ := hread.reject
      · exact Or.inl (by rw [hsame]; rfl)
      · have htokens := outcome_tokenize_eq_ok_iff.2 ⟨items, scan_eq_ok_iff.1 hscan, rfl⟩
        exact Or.inr ⟨items, read, j, name, hlength, rfl, htokens, hread, hfirst,
          by rw [hreject]; rfl⟩
    | ok p =>
      obtain ⟨hnodup, hsame⟩ | ⟨j, name, hfirst, hreject⟩ := reject_of_finish hscan hlast
      · exact Or.inl ⟨hnodup, by rw [hsame]; rfl⟩
      · exact Or.inr ⟨j, name, hfirst, by rw [hreject]; rfl⟩

/-- A later error does not hide a repeated name, and an earlier one is not hidden by it. -/
example :
    (parse "{a}{a})" { duplicates := .reject }).outcome =
        .error ⟨"{a}{a})", .duplicateVariable "a"⟩ ∧
      (parse "{a}){a}" { duplicates := .reject }).outcome =
        .error ⟨"{a}){a}", .unexpectedParenthesis 3⟩ :=
  ⟨rfl, rfl⟩

end PathGlob.Pattern
