-- SUMMARY: What one item does to an outline: why it is refused, and what the outline becomes by it.
import PathGlob.Proofs.Agreement
import PathGlob.Proofs.Pattern.Scanning

/-!
# Steps of an outline

`Refusal` says of each item that an outline does not take which fault it is reported as, and
`Taken` what the outline becomes by an item that it takes. What a step does to one part of an
outline is read off these two.
-/

namespace PathGlob.Pattern

/-! ## Refused declarations -/

/-- Why a declaration that starts at `start` is refused by itself. -/
inductive Declaration.Refusal (start : Nat) : Declaration → Fault → Prop
  | missingName {constraint : Option String} : Refusal start ⟨"", constraint⟩ (.missingName start)
  | invalidStart {name : String} {constraint : Option String} {c : Char} {cs : List Char} :
      name.toList = c :: cs → ¬ IsInitial c →
      Refusal start ⟨name, constraint⟩ (.invalidStart name c)
  | invalidCharacter {name : String} {constraint : Option String} {first c : Char}
      {before after : List Char} :
      name.toList = first :: before ++ c :: after → IsInitial first →
      (∀ d ∈ before, IsFollowing d) → ¬ IsFollowing c →
      Refusal start ⟨name, constraint⟩ (.invalidCharacter name c)
  | emptyConstraint {name : String} :
      Refusal start ⟨name, some ""⟩ (.emptyConstraint name)

theorem Declaration.refusal_of_checkName {start : Nat} {name : String}
    {constraint : Option String} {f : Fault} (h : checkName start name = .error f) :
    Declaration.Refusal start ⟨name, constraint⟩ f := by
  unfold checkName at h
  split at h
  · next hname =>
    obtain rfl : name = "" := String.toList_injective hname
    cases h
    exact .missingName
  · next first rest hname =>
    split at h
    · next hfirst =>
      split at h
      · next c hfind =>
        cases h
        obtain ⟨hc, before, after, rfl, hbefore⟩ := List.find?_eq_some_iff_append.1 hfind
        refine .invalidCharacter hname ((isNameStart_iff first).1 hfirst) (fun d hd => ?_) ?_
        · exact (isNameChar_iff d).1 (by simpa using hbefore d hd)
        · exact fun hfollowing => by simp [(isNameChar_iff c).2 hfollowing] at hc
      · cases h
    · next hfirst =>
      cases h
      exact .invalidStart hname fun hinitial => hfirst ((isNameStart_iff first).2 hinitial)

theorem Declaration.refusal_of_check {start : Nat} {d : Declaration} {f : Fault}
    (h : Declaration.check start d = .error f) : Declaration.Refusal start d f := by
  obtain ⟨name, constraint⟩ := d
  unfold Declaration.check at h
  split at h
  · next hname =>
    cases h
    exact refusal_of_checkName hname
  · split at h
    · next hempty =>
      cases h
      cases hempty
      exact .emptyConstraint
    · cases h

/-- Whether a question mark may follow the last item of a level. -/
def Level.takesQuantifier (l : Level) : Bool :=
  match l.items with
  | [] | .segment :: _ | .directories :: _ | .anything :: _ | .optional _ :: _ => false
  | _ => true

namespace Outline

variable {policy : DuplicatePolicy} {o o' o₁ : Outline} {x : Located Item} {f : Fault}
  {xs ys items : List (Located Item)}

/-! ## Extended outlines -/

/-- An outline after some items that hold some declarations. -/
def extend (o : Outline) (ps : List Pattern) (ds : List Declaration) : Outline :=
  { o with
    level.items := ps.reverse ++ o.level.items
    declared := ds.reverse ++ o.declared }

@[simp] theorem extend_extend (o : Outline) (ps qs : List Pattern) (ds es : List Declaration) :
    (o.extend ps ds).extend qs es = o.extend (ps ++ qs) (ds ++ es) := by
  simp [extend]

theorem append_eq_extend (o : Outline) (p : Pattern) : o.append p = o.extend [p] [] := rfl

@[simp] theorem declared_extend (o : Outline) (ps : List Pattern) (ds : List Declaration) :
    (o.extend ps ds).declared = ds.reverse ++ o.declared := rfl

@[simp] theorem enclosing_extend (o : Outline) (ps : List Pattern) (ds : List Declaration) :
    (o.extend ps ds).enclosing = o.enclosing := rfl

@[simp] theorem items_extend (o : Outline) (ps : List Pattern) (ds : List Declaration) :
    (o.extend ps ds).level.items = ps.reverse ++ o.level.items := rfl

/-! ## Parts of a step -/

/-- Whether nothing has been read on the current level. -/
def IsBlank (o : Outline) : Prop := o.level.branches = [] ∧ o.level.items = []

theorem isBlank_iff :
    (o.level.branches.isEmpty && o.level.items.isEmpty) = true ↔ o.IsBlank := by
  rw [Bool.and_eq_true, List.isEmpty_iff, List.isEmpty_iff, IsBlank]

/-- Only behind stars is a slash no literal of its own. -/
theorem slash_of_head?_ne (h : o.level.items.head? ≠ some .anything) :
    o.slash = o.append (.literal '/') := by
  unfold slash
  split
  next heq => exact absurd (by rw [heq]; rfl) h
  next => rfl

theorem step_literal_eq {c : Char} (h : c = '/' → o.level.items.head? ≠ some .anything) (i : Nat) :
    o.step policy ⟨i, .literal c⟩ = pure (o.append (.literal c)) := by
  by_cases hc : c = '/'
  · subst hc
    exact congrArg pure (slash_of_head?_ne (h rfl))
  · exact congrArg pure (if_neg hc)

theorem outcome_declare_eq_ok_iff {start : Nat} {d : Declaration} :
    (o.declare policy start d).outcome = .ok o' ↔
      IsName d.name.toList ∧ d.constraint ≠ some "" ∧
        (policy = .reject → d.name ∉ o.declared.map Declaration.name) ∧
          o' = o.extend [.var d] [d] := by
  rw [← and_assoc, ← Declaration.check_eq_ok_iff start, declare, Traced.outcome_bind]
  cases hcheck : Declaration.check start d with
  | error e => simp [Except.bind]
  | ok u =>
    have hany : (o.declared.any (·.name = d.name)) = true ↔
        d.name ∈ o.declared.map Declaration.name := by simp
    by_cases hmem : d.name ∈ o.declared.map Declaration.name
    · rw [if_pos (hany.2 hmem)]
      cases policy with
      | reject => simp [Except.bind, Traced.outcome_bind, hmem]
      | lastWins =>
        simp [Except.bind, Traced.outcome_bind, append_eq_extend, extend, eq_comm]
    · rw [if_neg (fun h => hmem (hany.1 h))]
      simp [Except.bind, hmem, append_eq_extend, extend, eq_comm]

/-- A parenthesis closes the innermost group, which goes to the end of the level around it. -/
theorem closeGroup_eq_ok_iff {i : Nat} : o.closeGroup i = .ok o' ↔
    ∃ start outer enclosing, o.enclosing = (start, outer) :: enclosing ∧ ¬ o.IsBlank ∧
      { o with
        level := { outer with items := .group o.level.toPattern :: outer.items }
        enclosing } = o' := by
  constructor
  · intro h
    unfold closeGroup at h
    split at h
    · cases h
    · next start outer enclosing henclosing =>
      split at h
      · cases h
      · next hblank =>
        exact ⟨start, outer, enclosing, henclosing, mt isBlank_iff.2 hblank, Except.ok.inj h⟩
  · rintro ⟨start, outer, enclosing, henclosing, hblank, rfl⟩
    rw [closeGroup, henclosing]
    exact if_neg (mt isBlank_iff.1 hblank)

/-- A question mark makes the last item optional, if it may follow it. -/
theorem makeOptional_cases (o : Outline) (i : Nat) :
    o.level.takesQuantifier = false ∧ o.makeOptional i = .error (.danglingQuantifier i) ∨
      o.level.takesQuantifier = true ∧ ∃ p rest, o.level.items = p :: rest ∧
        o.makeOptional i = .ok { o with level.items := .optional p :: rest } := by
  obtain ⟨⟨branches, items⟩, enclosing, declared⟩ := o
  cases items with
  | nil => exact .inl ⟨rfl, rfl⟩
  | cons p rest =>
    cases p with
    | segment | directories | anything | optional _ => exact .inl ⟨rfl, rfl⟩
    | _ => exact .inr ⟨rfl, _, _, rfl, rfl⟩

/-! ## Refused items -/

/-- Why an outline does not take an item. -/
inductive Refusal (policy : DuplicatePolicy) (o : Outline) : Located Item → Fault → Prop
  | brace {i : Nat} : Refusal policy o ⟨i, .closingBrace⟩ (.unexpectedBrace i)
  | parenthesis {i : Nat} :
      o.enclosing = [] → Refusal policy o ⟨i, .groupClose⟩ (.unexpectedParenthesis i)
  | emptyGroup {i start : Nat} {outer : Level} {enclosing : List (Nat × Level)} :
      o.enclosing = (start, outer) :: enclosing → o.IsBlank →
      Refusal policy o ⟨i, .groupClose⟩ (.emptyGroup start)
  | quantifier {i : Nat} : Refusal policy o ⟨i, .optional⟩ (.danglingQuantifier i)
  | declaration {i : Nat} {name : String} {constraint : Option String} {f : Fault} :
      Declaration.Refusal i ⟨name, constraint⟩ f →
      Refusal policy o ⟨i, .declaration name constraint⟩ f
  | duplicate {i : Nat} {name : String} {constraint : Option String} :
      policy = .reject → name ∈ o.declared.map Declaration.name →
      Refusal policy o ⟨i, .declaration name constraint⟩ (.duplicateVariable name)

theorem refusal_of_closeGroup {i : Nat} (h : o.closeGroup i = .error f) :
    Refusal policy o ⟨i, .groupClose⟩ f := by
  unfold closeGroup at h
  split at h
  · next henclosing =>
    cases h
    exact .parenthesis henclosing
  · next henclosing =>
    split at h
    · next hblank =>
      cases h
      exact .emptyGroup henclosing (isBlank_iff.1 hblank)
    · cases h

theorem refusal_of_declare {i : Nat} {name : String} {constraint : Option String}
    (h : (o.declare policy i ⟨name, constraint⟩).outcome = .error f) :
    Refusal policy o ⟨i, .declaration name constraint⟩ f := by
  rw [declare, Traced.outcome_bind, Traced.outcome_ofExcept] at h
  cases hcheck : Declaration.check i ⟨name, constraint⟩ with
  | error e =>
    rw [hcheck] at h
    cases h
    exact .declaration (Declaration.refusal_of_check hcheck)
  | ok _ =>
    rw [hcheck] at h
    dsimp only [Except.bind] at h
    split at h
    · next hany =>
      cases policy with
      | reject =>
        cases h
        exact .duplicate rfl (by simpa using hany)
      | lastWins => cases h
    · cases h

theorem refusal_of_step (h : (o.step policy x).outcome = .error f) : Refusal policy o x f := by
  obtain ⟨i, item⟩ := x
  cases item with
  | declaration name constraint => exact refusal_of_declare h
  | closingBrace =>
    cases h
    exact .brace
  | groupClose => exact refusal_of_closeGroup h
  | optional =>
    rw [step, Traced.outcome_ofExcept] at h
    obtain ⟨-, herror⟩ | ⟨-, p, rest, -, hok⟩ := o.makeOptional_cases i
    · rw [herror] at h
      cases h
      exact .quantifier
    · rw [hok] at h
      cases h
  | _ => cases h

/-- Open groups are no reason to refuse an item. -/
theorem ne_unterminatedGroup_of_step (h : (o.step policy x).outcome = .error f) (start : Nat) :
    f ≠ .unterminatedGroup start := by
  rintro rfl
  cases refusal_of_step h with
  | declaration hrefusal => cases hrefusal

/-! ## Items that are taken -/

/-- What an outline becomes by an item that it takes. -/
inductive Taken (policy : DuplicatePolicy) (o : Outline) : Located Item → Outline → Prop
  | literal {i : Nat} {c : Char} :
      (c = '/' → o.level.items.head? ≠ some .anything) →
      Taken policy o ⟨i, .literal c⟩ (o.append (.literal c))
  | directories {i : Nat} {rest : List Pattern} :
      o.level.items = .anything :: rest →
      Taken policy o ⟨i, .literal '/'⟩ { o with level.items := .directories :: rest }
  | escaped {i : Nat} {c : Char} : Taken policy o ⟨i, .escaped c⟩ (o.append (.literal c))
  | fullStop {i : Nat} : Taken policy o ⟨i, .fullStop⟩ (o.append (.literal '.'))
  | wildcard {i : Nat} : Taken policy o ⟨i, .wildcard⟩ (o.append .segment)
  | recursiveWildcard {i : Nat} : Taken policy o ⟨i, .recursiveWildcard⟩ (o.append .anything)
  | declaration {i : Nat} {name : String} {constraint : Option String} :
      IsName name.toList → constraint ≠ some "" →
      (policy = .reject → name ∉ o.declared.map Declaration.name) →
      Taken policy o ⟨i, .declaration name constraint⟩
        (o.extend [.var ⟨name, constraint⟩] [⟨name, constraint⟩])
  | groupOpen {i : Nat} : Taken policy o ⟨i, .groupOpen⟩ (o.openGroup i)
  | groupClose {i start : Nat} {outer : Level} {enclosing : List (Nat × Level)} :
      o.enclosing = (start, outer) :: enclosing → ¬ o.IsBlank →
      Taken policy o ⟨i, .groupClose⟩
        { o with
          level := { outer with items := .group o.level.toPattern :: outer.items }
          enclosing }
  | alternation {i : Nat} : Taken policy o ⟨i, .alternation⟩ o.alternate
  | optional {i : Nat} {p : Pattern} {rest : List Pattern} :
      o.level.items = p :: rest → o.level.takesQuantifier = true →
      Taken policy o ⟨i, .optional⟩ { o with level.items := .optional p :: rest }

/-- A slash belongs to the stars before it, or is a literal character. -/
theorem taken_slash (i : Nat) : Taken policy o ⟨i, .literal '/'⟩ o.slash := by
  by_cases hhead : o.level.items.head? = some .anything
  · obtain ⟨rest, hitems⟩ := List.head?_eq_some_iff.1 hhead
    rw [slash, hitems]
    exact .directories hitems
  · rw [slash_of_head?_ne hhead]
    exact .literal fun _ => hhead

theorem taken_of_step (h : (o.step policy x).outcome = .ok o') : Taken policy o x o' := by
  obtain ⟨i, item⟩ := x
  cases item with
  | literal c =>
    cases h
    split
    · next hc =>
      subst hc
      exact taken_slash i
    · next hc => exact .literal fun heq => absurd heq hc
  | declaration name constraint =>
    obtain ⟨hname, hconstraint, hfresh, rfl⟩ := outcome_declare_eq_ok_iff.1 h
    exact .declaration hname hconstraint hfresh
  | closingBrace => cases h
  | groupClose =>
    rw [step, Traced.outcome_ofExcept] at h
    obtain ⟨start, outer, enclosing, henclosing, hblank, rfl⟩ := closeGroup_eq_ok_iff.1 h
    exact .groupClose henclosing hblank
  | optional =>
    rw [step, Traced.outcome_ofExcept] at h
    obtain ⟨-, herror⟩ | ⟨htakes, p, rest, hitems, hok⟩ := o.makeOptional_cases i
    · rw [herror] at h
      cases h
    · rw [hok] at h
      cases h
      exact .optional hitems htakes
  | _ =>
    cases h
    constructor

theorem Taken.step (h : Taken policy o x o') : (o.step policy x).outcome = .ok o' := by
  cases h with
  | literal hslash => exact congrArg Traced.outcome (step_literal_eq hslash _)
  | directories hitems => simp [Outline.step, slash, hitems]
  | declaration hname hconstraint hfresh =>
    exact outcome_declare_eq_ok_iff.2 ⟨hname, hconstraint, hfresh, rfl⟩
  | groupClose henclosing hblank =>
    exact closeGroup_eq_ok_iff.2 ⟨_, _, _, henclosing, hblank, rfl⟩
  | @optional i _ _ hitems htakes =>
    obtain ⟨hnot, -⟩ | ⟨-, q, rest, hitems', hok⟩ := o.makeOptional_cases i
    · rw [hnot] at htakes
      cases htakes
    · rw [hitems] at hitems'
      cases hitems'
      exact hok
  | _ => rfl

theorem not_isBlank_of_items {p : Pattern} {ps : List Pattern} (h : o.level.items = p :: ps) :
    ¬ o.IsBlank := by
  rintro ⟨-, hitems⟩
  rw [h] at hitems
  cases hitems

/-- Only an opening parenthesis leaves nothing on its level. -/
theorem eq_openGroup_of_isBlank (h : (o.step policy x).outcome = .ok o') (hblank : o'.IsBlank) :
    x.value = .groupOpen ∧ o' = o.openGroup x.index := by
  cases taken_of_step h with
  | groupOpen => exact ⟨rfl, rfl⟩
  | alternation => exact absurd hblank.1 (List.cons_ne_nil _ _)
  | _ => exact absurd hblank (not_isBlank_of_items rfl)

/-- A step adds at most one declaration, and no repeated name if those are refused. -/
theorem declared_of_step (h : (o.step policy x).outcome = .ok o') :
    o'.declared = o.declared ∨
      ∃ d, o'.declared = d :: o.declared ∧
        (policy = .reject → d.name ∉ o.declared.map Declaration.name) := by
  cases taken_of_step h with
  | declaration _ _ hfresh => exact .inr ⟨_, rfl, hfresh⟩
  | _ => exact .inl rfl

/-! ## Several items -/

theorem steps_singleton : o.steps policy [x] = o.step policy x :=
  Traced.bind_pure _

theorem steps_append (o : Outline) (xs ys : List (Located Item)) :
    o.steps policy (xs ++ ys) = o.steps policy xs >>= fun o' => o'.steps policy ys := by
  induction xs generalizing o with
  | nil => rfl
  | cons x xs ih =>
    rw [List.cons_append, steps, steps, Traced.bind_assoc]
    exact congrArg _ (funext ih)

theorem outcome_steps_append (o : Outline) (xs ys : List (Located Item)) :
    (o.steps policy (xs ++ ys)).outcome =
      (o.steps policy xs).outcome.bind fun o' => (o'.steps policy ys).outcome := by
  rw [steps_append, Traced.outcome_bind]

theorem exists_of_steps_cons (h : (o.steps policy (x :: xs)).outcome = .ok o') :
    ∃ o₁, (o.step policy x).outcome = .ok o₁ ∧ (o₁.steps policy xs).outcome = .ok o' :=
  Traced.exists_of_bind_eq_ok h

theorem steps_cons_of_step (hx : (o.step policy x).outcome = .ok o₁)
    (hxs : (o₁.steps policy xs).outcome = .ok o') :
    (o.steps policy (x :: xs)).outcome = .ok o' := by
  rw [steps, Traced.outcome_bind, hx]
  exact hxs

theorem exists_of_steps_append (h : (o.steps policy (xs ++ ys)).outcome = .ok o') :
    ∃ o₁, (o.steps policy xs).outcome = .ok o₁ ∧ (o₁.steps policy ys).outcome = .ok o' := by
  rw [steps_append] at h
  exact Traced.exists_of_bind_eq_ok h

/-- An outline behind some items is the one before them, or comes from a step with the last one. -/
theorem eq_or_exists_last_of_steps (h : (o.steps policy items).outcome = .ok o') :
    items = [] ∧ o' = o ∨
      ∃ read x o₁, items = read ++ [x] ∧ (o.steps policy read).outcome = .ok o₁ ∧
        (o₁.step policy x).outcome = .ok o' := by
  rcases List.eq_nil_or_concat items with rfl | ⟨read, x, rfl⟩
  · cases h
    exact .inl ⟨rfl, rfl⟩
  · rw [List.concat_eq_append] at h ⊢
    obtain ⟨o₁, hread, hx⟩ := exists_of_steps_append h
    rw [steps_singleton] at hx
    exact .inr ⟨read, x, o₁, rfl, hread, hx⟩

/-- Items that are not all taken have a first one that is refused. -/
theorem exists_refused_of_steps (h : (o.steps policy items).outcome = .error f) :
    ∃ read x rest o', items = read ++ x :: rest ∧ (o.steps policy read).outcome = .ok o' ∧
      (o'.step policy x).outcome = .error f := by
  induction items generalizing o with
  | nil => cases h
  | cons x items ih =>
    rw [steps, Traced.outcome_bind] at h
    cases hx : (o.step policy x).outcome with
    | error e =>
      rw [hx] at h
      cases h
      exact ⟨[], x, items, o, rfl, rfl, hx⟩
    | ok o₁ =>
      rw [hx] at h
      obtain ⟨read, y, rest, o', rfl, hread, hy⟩ := ih h
      exact ⟨x :: read, y, rest, o', rfl, steps_cons_of_step hx hread, hy⟩

/-- Nothing behind an item that is refused is looked at. -/
theorem steps_append_of_refused (hread : (o.steps policy items).outcome = .ok o')
    (hx : (o'.step policy x).outcome = .error f) (rest : List (Located Item)) :
    (o.steps policy (items ++ x :: rest)).outcome = .error f := by
  rw [outcome_steps_append, hread, Except.bind, steps, Traced.outcome_bind, hx]
  rfl

/-- A level that is blank behind some items was opened by the last of them. -/
theorem exists_opened_of_isBlank (h : (Outline.steps policy {} items).outcome = .ok o)
    (hblank : o.IsBlank) {start : Nat} {outer : Level} {enclosing : List (Nat × Level)}
    (henclosing : o.enclosing = (start, outer) :: enclosing) :
    ∃ read, items = read ++ [⟨start, .groupOpen⟩] := by
  obtain ⟨-, rfl⟩ | ⟨read, x, o₁, rfl, -, hx⟩ := eq_or_exists_last_of_steps h
  · cases henclosing
  · obtain ⟨hvalue, rfl⟩ := eq_openGroup_of_isBlank hx hblank
    cases henclosing
    exact ⟨read, by rw [← hvalue]⟩

theorem nodup_declared_of_steps (h : (o.steps .reject items).outcome = .ok o')
    (hnodup : (o.declared.map Declaration.name).Nodup) :
    (o'.declared.map Declaration.name).Nodup := by
  induction items generalizing o with
  | nil =>
    cases h
    exact hnodup
  | cons x items ih =>
    obtain ⟨o₁, hx, hitems⟩ := exists_of_steps_cons h
    refine ih hitems ?_
    obtain heq | ⟨d, heq, hfresh⟩ := declared_of_step hx
    · rwa [heq]
    · rw [heq, List.map_cons, List.nodup_cons]
      exact ⟨hfresh rfl, hnodup⟩

theorem finish_eq_ok_iff {p : Pattern} :
    o.finish = .ok p ↔ o.enclosing = [] ∧ o.level.toPattern = p := by
  rw [← List.getLast?_eq_none_iff, finish]
  cases o.enclosing.getLast? with
  | none => simp
  | some e => simp

end Outline

/-! ## Whole texts -/

theorem outcome_parse_of_lt {text : String} {options : Options}
    (h : options.maxPatternLength.toNat < text.utf8ByteSize) :
    (parse text options).outcome =
      .error ⟨text, .tooLong text.utf8ByteSize options.maxPatternLength.toNat⟩ := by
  simp only [parse, h, if_true]
  rfl

theorem outcome_parse_of_le {text : String} {options : Options}
    (h : text.utf8ByteSize ≤ options.maxPatternLength.toNat) :
    (parse text options).outcome = ((scan 0 text.toList).bind fun items =>
      (Outline.steps options.duplicates {} items).outcome.bind Outline.finish).mapError
        (⟨text, ·⟩) := by
  have hlen : ¬ options.maxPatternLength.toNat < text.utf8ByteSize := Nat.not_lt.2 h
  simp [parse, itemsOf, hlen, Traced.outcome_bind, Except.bind, ofScan]

theorem outcome_parse_of_scan {text : String} {options : Options} {items : List (Located Item)}
    (h : text.utf8ByteSize ≤ options.maxPatternLength.toNat)
    (hscan : scan 0 text.toList = .ok items) :
    (parse text options).outcome =
      ((Outline.steps options.duplicates {} items).outcome.bind Outline.finish).mapError
        (⟨text, ·⟩) := by
  rw [outcome_parse_of_le h, hscan]
  rfl

end PathGlob.Pattern
