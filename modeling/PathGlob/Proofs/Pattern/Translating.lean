-- SUMMARY: Translating the tokens of a text in one pass comes to the same as rendering its tree.
import PathGlob.Pattern.Translator
import PathGlob.Proofs.Agreement
import PathGlob.Proofs.Pattern.Juxtaposition

/-!
# Translating in one pass

A translator and an outline go through the same items side by side. What the translator has written
is the source of the outline's levels, with the parentheses of the groups that are open, and the
token of its last turn tells what the outline ends with. One turn takes one item, or stars together
with the slash after them.
-/

namespace PathGlob.Pattern

/-! ## Text at the end of a pattern -/

/-- Whether a pattern is another one with some text and some declarations added at its end. The text
is given by the number of declarations before it. -/
structure Continues (p q : Pattern) (text : Nat → List Char) (ds : List Declaration) : Prop where
  render : ∀ n, q.render n = p.render n ++ text (n + p.arity)
  declarations : q.declarations = p.declarations ++ ds

namespace Continues

variable {p q : Pattern} {text : Nat → List Char} {ds : List Declaration}

theorem seq (x : Pattern) (h : Continues p q text ds) :
    Continues (.seq x p) (.seq x q) text ds where
  render n := by
    rw [render_seq, render_seq, h.render, arity, List.append_assoc, Nat.add_assoc]
  declarations := by
    rw [Pattern.declarations, h.declarations, Pattern.declarations, List.append_assoc]

theorem alt (x : Pattern) (h : Continues p q text ds) :
    Continues (.alt x p) (.alt x q) text ds where
  render n := by
    rw [render_alt, render_alt, h.render, arity, List.append_assoc, List.cons_append, Nat.add_assoc]
  declarations := by
    rw [Pattern.declarations, h.declarations, Pattern.declarations, List.append_assoc]

/-- What is added to the last part of a pattern is added to the pattern. -/
theorem foldl {op : Pattern → Pattern → Pattern}
    (hop : ∀ {p q} x, Continues p q text ds → Continues (op x p) (op x q) text ds)
    (xs : List Pattern) (h : Continues p q text ds) :
    Continues (xs.foldl (fun p x => op x p) p) (xs.foldl (fun p x => op x p) q) text ds := by
  induction xs generalizing p q with
  | nil => exact h
  | cons x xs ih => exact ih (hop x h)

theorem append (p : Pattern) (l : Level) :
    Continues l.toPattern { l with items := p :: l.items : Level}.toPattern p.render
      p.declarations := by
  have hitem : Continues .empty (.seq p .empty) p.render p.declarations :=
    ⟨fun n => List.append_nil _, List.append_nil _⟩
  exact (hitem.foldl seq l.items).foldl alt l.branches

theorem optional (p : Pattern) (branches rest : List Pattern) :
    Continues (Level.toPattern ⟨branches, p :: rest⟩)
      (Level.toPattern ⟨branches, .optional p :: rest⟩) (fun _ => ['?']) [] := by
  have hitem : Continues (.seq p .empty) (.seq (.optional p) .empty) (fun _ => ['?']) [] := by
    refine ⟨fun n => ?_, (List.append_nil _).symm⟩
    show (p.render n ++ ['?']) ++ [] = (p.render n ++ []) ++ ['?']
    rw [List.append_nil, List.append_nil]
  exact (hitem.foldl seq rest).foldl alt branches

theorem alternate (l : Level) :
    Continues l.toPattern (Level.toPattern ⟨ofItems l.items :: l.branches, []⟩) (fun _ => ['|'])
      [] := by
  have hitem : Continues (ofItems l.items) (.alt (ofItems l.items) .empty) (fun _ => ['|']) [] :=
    ⟨fun _ => rfl, rfl⟩
  exact hitem.foldl alt l.branches

end Continues

/-! ## Text of an outline -/

namespace Outline

/-- The declarations of the levels that open groups interrupt. -/
def declaredBefore : List (Nat × Level) → List Declaration
  | [] => []
  | (_, outer) :: enclosing => declaredBefore enclosing ++ outer.toPattern.declarations

/-- The source written up to the innermost open group, its parenthesis included. -/
def writtenBefore : List (Nat × Level) → List Char
  | [] => "^(?:".toList
  | (_, outer) :: enclosing => writtenBefore enclosing ++
      outer.toPattern.render (declaredBefore enclosing).length ++ "(?:".toList

/-- The source written so far. -/
def written (o : Outline) : List Char :=
  writtenBefore o.enclosing ++ o.level.toPattern.render (declaredBefore o.enclosing).length

/-- Whether the declarations met are those of the levels. -/
def Declares (o : Outline) : Prop :=
  o.declared.reverse = declaredBefore o.enclosing ++ o.level.toPattern.declarations

variable {o : Outline} {l : Level} {text : Nat → List Char} {ds : List Declaration}

theorem Declares.length_declared (h : o.Declares) :
    o.declared.length = (declaredBefore o.enclosing).length + o.level.toPattern.arity := by
  rw [← List.length_reverse, h, List.length_append, length_declarations]

theorem written_of_continues (ho : o.Declares)
    (hl : Continues o.level.toPattern l.toPattern text ds) :
    { o with level := l, declared := ds.reverse ++ o.declared : Outline}.written =
      o.written ++ text o.declared.length := by
  rw [written, written, hl.render, ho.length_declared, List.append_assoc]

theorem Declares.continues (ho : o.Declares)
    (hl : Continues o.level.toPattern l.toPattern text ds) :
    { o with level := l, declared := ds.reverse ++ o.declared : Outline}.Declares := by
  rw [Declares, List.reverse_append, List.reverse_reverse, ho, hl.declarations, List.append_assoc]

theorem written_openGroup (o : Outline) (i : Nat) :
    (o.openGroup i).written = o.written ++ "(?:".toList := List.append_nil _

theorem Declares.openGroup (ho : o.Declares) (i : Nat) : (o.openGroup i).Declares :=
  ho.trans (List.append_nil _).symm

section

variable {start : Nat} {outer : Level} {enclosing : List (Nat × Level)}
  (ho : o.enclosing = (start, outer) :: enclosing)
include ho

theorem written_closeGroup :
    { o with
      level := { outer with items := .group o.level.toPattern :: outer.items }
      enclosing : Outline }.written = o.written ++ [')'] := by
  have hgroup := (Continues.append (.group o.level.toPattern) outer).render
    (declaredBefore enclosing).length
  rw [written, written, hgroup, ho, writtenBefore, declaredBefore, render_group, List.length_append,
    length_declarations]
  simp only [List.append_assoc]

theorem Declares.closeGroup (h : o.Declares) :
    { o with
      level := { outer with items := .group o.level.toPattern :: outer.items }
      enclosing : Outline }.Declares := by
  have hgroup := (Continues.append (.group o.level.toPattern) outer).declarations
  rw [Declares, h, hgroup, ho, declaredBefore, List.append_assoc]
  rfl

end

end Outline

/-! ## What a translator has written -/

namespace Translator

/-- Whether a translator has written what an outline was built from. -/
structure Writes (t : Translator) (o : Outline) : Prop where
  out : t.out = o.written
  declares : o.Declares
  variableNames : t.variableNames = o.declared.reverse.map Declaration.name
  constraints : t.constraints =
    o.declared.reverse.filterMap fun d => d.constraint.map (d.name, ·)
  openGroups : t.openGroups = o.enclosing.map Prod.fst
  opened : t.previous = some .groupOpen ↔ o.enclosing ≠ [] ∧ o.IsBlank
  takesQuantifier : t.takesQuantifier = o.level.takesQuantifier

theorem Writes.start : Writes {} {} where
  out := rfl
  declares := rfl
  variableNames := rfl
  constraints := rfl
  openGroups := rfl
  opened := iff_of_false nofun fun h => h.1 rfl
  takesQuantifier := rfl

namespace Writes

variable {t : Translator} {o : Outline} {head : Located Token} {l : Level} {cs : List Char}

/-- A turn that adds declarations and their text at the end of the level. -/
theorem extend {text : Nat → List Char} {ds : List Declaration} (h : Writes t o)
    (hl : Continues o.level.toPattern l.toPattern text ds) (hhead : head.value ≠ .groupOpen)
    (hblank : ¬ (l.branches = [] ∧ l.items = []))
    (hquantifier : (t.after head).takesQuantifier = l.takesQuantifier) :
    Writes
      ({ t.write (text t.variableNames.length) with
        variableNames := t.variableNames ++ ds.map Declaration.name
        constraints := t.constraints ++ ds.filterMap fun d => d.constraint.map (d.name, ·) :
          Translator }.after head)
      { o with level := l, declared := ds.reverse ++ o.declared } where
  out := by
    have hlength : t.variableNames.length = o.declared.length := by simp [h.variableNames]
    rw [Outline.written_of_continues h.declares hl, ← h.out, ← hlength]
    rfl
  declares := h.declares.continues hl
  variableNames := by
    rw [List.reverse_append, List.reverse_reverse, List.map_append, ← h.variableNames]
    rfl
  constraints := by
    rw [List.reverse_append, List.reverse_reverse, List.filterMap_append, ← h.constraints]
    rfl
  openGroups := h.openGroups
  opened := iff_of_false (fun heq => hhead (Option.some.inj heq)) fun hopened => hblank hopened.2
  takesQuantifier := hquantifier

/-- A turn that adds text without declarations at the end of the level. -/
theorem write (h : Writes t o) (hl : Continues o.level.toPattern l.toPattern (fun _ => cs) [])
    (hhead : head.value ≠ .groupOpen) (hblank : ¬ (l.branches = [] ∧ l.items = []))
    (hquantifier : (t.after head).takesQuantifier = l.takesQuantifier) :
    Writes ((t.write cs).after head) { o with level := l } := by
  have hextend := h.extend hl hhead hblank hquantifier
  simp only [List.map_nil, List.filterMap_nil, List.append_nil] at hextend
  exact hextend

/-- A turn that writes one item. -/
theorem append (h : Writes t o) {p : Pattern} (hcs : p.render = fun _ => cs)
    (hp : p.declarations = []) (hhead : head.value ≠ .groupOpen)
    (hquantifier : (t.after head).takesQuantifier = (o.append p).level.takesQuantifier) :
    Writes ((t.write cs).after head) (o.append p) := by
  have hl := Continues.append p o.level
  rw [hcs, hp] at hl
  exact h.write hl hhead (fun hblank => List.cons_ne_nil _ _ hblank.2) hquantifier

theorem openGroup (h : Writes t o) (i j : Nat) :
    Writes ((t.openGroup i).after ⟨j, .groupOpen⟩) (o.openGroup i) where
  out := (congrArg (· ++ "(?:".toList) h.out).trans (o.written_openGroup i).symm
  declares := h.declares.openGroup i
  variableNames := h.variableNames
  constraints := h.constraints
  openGroups := congrArg (i :: ·) h.openGroups
  opened := iff_of_true rfl ⟨List.cons_ne_nil _ _, rfl, rfl⟩
  takesQuantifier := rfl

theorem closeGroup (h : Writes t o) {start : Nat} {outer : Level} {enclosing : List (Nat × Level)}
    (ho : o.enclosing = (start, outer) :: enclosing) (i : Nat) :
    Writes ({ t.write [')'] with openGroups := enclosing.map Prod.fst }.after ⟨i, .groupClose⟩)
      { o with
        level := { outer with items := .group o.level.toPattern :: outer.items }
        enclosing } where
  out := by
    rw [Outline.written_closeGroup ho, ← h.out]
    rfl
  declares := h.declares.closeGroup ho
  variableNames := h.variableNames
  constraints := h.constraints
  openGroups := rfl
  opened := iff_of_false nofun fun hopened => List.cons_ne_nil _ _ hopened.2.2
  takesQuantifier := rfl

/-! ## Parts of a turn -/

theorem agree_closeGroup (h : Writes t o) (i : Nat) :
    Traced.Agree (fun (t' : Translator) o' => Writes (t'.after ⟨i, .groupClose⟩) o')
      (.ofExcept (t.closeGroup i)) (.ofExcept (o.closeGroup i)) := by
  have hopen := h.openGroups
  unfold Translator.closeGroup Outline.closeGroup
  cases henclosing : o.enclosing with
  | nil =>
    rw [henclosing] at hopen
    rw [hopen]
    exact .error
  | cons e enclosing =>
    obtain ⟨start, outer⟩ := e
    rw [henclosing] at hopen
    rw [hopen]
    have hopened : t.previous = some .groupOpen ↔
        (o.level.branches.isEmpty && o.level.items.isEmpty) = true := by
      rw [h.opened, Outline.isBlank_iff, henclosing]
      exact and_iff_right (List.cons_ne_nil _ _)
    by_cases hblank : (o.level.branches.isEmpty && o.level.items.isEmpty) = true
    · simp only [List.map_cons, if_pos hblank, if_pos (hopened.2 hblank)]
      exact .error
    · simp only [List.map_cons, if_neg hblank, if_neg (mt hopened.1 hblank)]
      exact .ok (h.closeGroup henclosing i)

theorem agree_makeOptional (h : Writes t o) (i : Nat) :
    Traced.Agree (fun (t' : Translator) o' => Writes (t'.after ⟨i, .optional⟩) o')
      (.ofExcept (t.makeOptional i)) (.ofExcept (o.makeOptional i)) := by
  rw [makeOptional, h.takesQuantifier]
  obtain ⟨hnot, herror⟩ | ⟨htakes, p, rest, hitems, hok⟩ := o.makeOptional_cases i
  · rw [hnot, herror]
    exact .error
  · rw [htakes, hok]
    have hl := Continues.optional p o.level.branches rest
    rw [← hitems] at hl
    exact .ok (h.write hl nofun (fun hblank => List.cons_ne_nil _ _ hblank.2) rfl)

theorem agree_declare (h : Writes t o) (policy : DuplicatePolicy) (i : Nat)
    (d : Declaration) :
    Traced.Agree (fun (t' : Translator) o' => Writes (t'.after ⟨i, .variableOpen⟩) o')
      (do Traced.ofExcept (Declaration.check i d); t.declare policy d)
      (o.declare policy i d) := by
  have hmet : t.variableNames.contains d.name = o.declared.any (·.name = d.name) := by
    rw [h.variableNames, Bool.eq_iff_iff]
    simp
  have htaken : Writes ({ t.write ((Pattern.var d).render t.variableNames.length) with
      variableNames := t.variableNames ++ [d.name]
      constraints := t.constraints ++ (d.constraint.map (d.name, ·)).toList :
        Translator }.after ⟨i, .variableOpen⟩)
      { o.append (.var d) with declared := d :: o.declared } := by
    have hl := Continues.append (.var d) o.level
    have hextend : Writes (after _ ⟨i, .variableOpen⟩) _ :=
      h.extend hl nofun (fun hblank => List.cons_ne_nil _ _ hblank.2) rfl
    have hconstraint : (Pattern.var d).declarations.filterMap
        (fun d => d.constraint.map (d.name, ·)) = (d.constraint.map (d.name, ·)).toList := by
      show [d].filterMap _ = _
      cases hd : d.constraint <;> simp [hd]
    rw [hconstraint] at hextend
    exact hextend
  unfold declare Outline.declare
  rw [hmet]
  cases Declaration.check i d with
  | error e => exact .error
  | ok _ =>
    by_cases hany : o.declared.any (·.name = d.name) = true
    · cases policy with
      | reject =>
        rw [if_pos hany, if_pos hany]
        exact .error
      | lastWins =>
        rw [if_pos hany, if_pos hany]
        exact .ok htaken
    · rw [if_neg hany, if_neg hany]
      exact .ok htaken

end Writes

end Translator

/-! ## Tokens of items -/

/-- The tokens of some items. -/
def tokensOf (items : List (Located Item)) : List (Located Token) :=
  items.flatMap fun x => locate x.index x.value.tokens

/-- Whether tokens start with the rest of a declaration: its name, its constraint if it has one, and
a closing token. -/
inductive StartsDeclaration (start : Nat) (tokens : List (Located Token)) (d : Declaration)
    (left : List (Located Token)) : Prop
  | mk {afterName afterConstraint : List (Located Token)} :
      takeName start tokens = .ok (d.name, afterName) →
      takeConstraint afterName = (d.constraint, afterConstraint) →
      takeClose start afterConstraint = .ok left → StartsDeclaration start tokens d left

theorem StartsDeclaration.takeDeclaration_eq {start : Nat} {tokens left : List (Located Token)}
    {d : Declaration} (h : StartsDeclaration start tokens d left) :
    takeDeclaration start tokens = (Declaration.check start d).map fun _ => (d, left) := by
  obtain ⟨hname, hconstraint, hclose⟩ := h
  simp only [takeDeclaration, bind, Except.bind, hname, hconstraint, hclose, Declaration.check]
  cases checkName start d.name with
  | error e => rfl
  | ok _ =>
    by_cases hempty : d.constraint = some ""
    · simp only [if_pos hempty]
      rfl
    · simp only [if_neg hempty]
      rfl

section

variable {items : List (Located Item)} {head : Located Token} {rest : List (Located Token)}

theorem tokensOf_append (xs ys : List (Located Item)) :
    tokensOf (xs ++ ys) = tokensOf xs ++ tokensOf ys := List.flatMap_append

theorem tokensOf_eq_nil (h : tokensOf items = []) : items = [] := by
  rcases items with _ | ⟨⟨i, item⟩, items⟩
  · rfl
  cases item with
  | declaration name constraint => cases constraint <;> cases h
  | _ => cases h

theorem startsDeclaration_of_tokensOf {i : Nat} {name : String} {constraint : Option String}
    (h : tokensOf (⟨i, .declaration name constraint⟩ :: items) = head :: rest) :
    head = ⟨i, .variableOpen⟩ ∧ StartsDeclaration i rest ⟨name, constraint⟩ (tokensOf items) := by
  cases constraint <;> cases h <;> exact ⟨rfl, .mk rfl rfl rfl⟩

theorem value_of_tokensOf_slash {i : Nat} (h : tokensOf items = ⟨i, .literal '/'⟩ :: rest) :
    items.head?.map Located.value = some (.literal '/') := by
  rcases items with _ | ⟨⟨j, item⟩, items⟩
  · cases h
  cases item with
  | literal c =>
    cases h
    rfl
  | declaration name constraint => cases constraint <;> cases h
  | _ => cases h

end

/-! ## One turn -/

namespace Translator

variable {policy : DuplicatePolicy} {t : Translator} {o : Outline} {x : Located Item}
  {items : List (Located Item)}

/-- Whether a translator has come to some items as an outline has. Stars are taken together with the
slash after them, so none is left behind them. -/
structure Stands (t : Translator) (o : Outline) (items : List (Located Item)) : Prop
    extends Writes t o where
  slash : o.level.items.head? = some .anything → items.head?.map Located.value ≠ some (.literal '/')

/-- Whether a turn takes some of the items that come next, and agrees with the outline on them. -/
inductive TurnAgrees (policy : DuplicatePolicy) (t : Translator) (o : Outline)
    (head : Located Token) (rest : List (Located Token)) : List (Located Item) → Prop
  | mk (taken left : List (Located Item)) : taken ≠ [] →
      Traced.Agree (fun r o' => r.2 = tokensOf left ∧ Stands (r.1.after head) o' left)
        (t.turn policy head rest) (o.steps policy taken) →
      TurnAgrees policy t o head rest (taken ++ left)

/-- A turn that takes a single item. -/
theorem TurnAgrees.one {head : Located Token} {rest : List (Located Token)}
    (hx : x.value ≠ .recursiveWildcard)
    (h : Traced.Agree (fun r o' => r.2 = tokensOf items ∧ Writes (r.1.after head) o')
      (t.turn policy head rest) (o.step policy x)) :
    TurnAgrees policy t o head rest (x :: items) := by
  refine .mk [x] items (List.cons_ne_nil _ _) ?_
  rw [Outline.steps_singleton]
  refine h.imp fun r o' hstep hr => ⟨hr.1, hr.2, fun hanything => ?_⟩
  exact absurd ((Outline.value_of_head?_items hstep).2 hanything) hx

theorem turnAgrees_literal {i : Nat} {c : Char} (h : Stands t o (⟨i, .literal c⟩ :: items)) :
    TurnAgrees policy t o ⟨i, .literal c⟩ (tokensOf items) (⟨i, .literal c⟩ :: items) := by
  have hstep : o.step policy ⟨i, .literal c⟩ = pure (o.append (.literal c)) := by
    refine Outline.step_literal_eq (fun hc => ?_) i
    -- stars before the slash would have been taken with it
    subst hc
    exact mt h.slash fun hne => hne rfl
  refine .one nofun ?_
  rw [hstep]
  exact .ok ⟨rfl, h.append rfl rfl nofun rfl⟩

/-- Stars with no slash behind them are taken alone. -/
theorem turn_recursiveWildcard {i : Nat}
    (h : items.head?.map Located.value ≠ some (.literal '/')) :
    t.turn policy ⟨i, .recursiveWildcard⟩ (tokensOf items) =
      pure (t.write anyPath.toList, tokensOf items) := by
  rw [turn]
  exact fun j tokens htokens => h (value_of_tokensOf_slash htokens)

theorem turnAgrees_recursiveWildcard (h : Writes t o) (i : Nat) (items : List (Located Item)) :
    TurnAgrees policy t o ⟨i, .recursiveWildcard⟩ (tokensOf items)
      (⟨i, .recursiveWildcard⟩ :: items) := by
  by_cases hslash : items.head?.map Located.value = some (.literal '/')
  · obtain ⟨⟨j, item⟩, hhead, hitem⟩ := Option.map_eq_some_iff.1 hslash
    obtain ⟨left, rfl⟩ := List.head?_eq_some_iff.1 hhead
    obtain rfl : item = .literal '/' := hitem
    have hwrites : Writes ((t.write nestedDirectories.toList).after ⟨i, .recursiveWildcard⟩)
        (o.append .directories) := h.append rfl rfl nofun rfl
    exact .mk [⟨i, .recursiveWildcard⟩, ⟨j, .literal '/'⟩] left (List.cons_ne_nil _ _)
      (.ok ⟨rfl, hwrites, nofun⟩)
  · have hwrites : Writes ((t.write anyPath.toList).after ⟨i, .recursiveWildcard⟩)
        (o.append .anything) := h.append rfl rfl nofun rfl
    refine .mk [⟨i, .recursiveWildcard⟩] items (List.cons_ne_nil _ _) ?_
    rw [turn_recursiveWildcard hslash]
    exact .ok ⟨rfl, hwrites, fun _ => hslash⟩

theorem turnAgrees_declaration (h : Writes t o) {i : Nat} {name : String}
    {constraint : Option String} {rest : List (Located Token)}
    (hrest : StartsDeclaration i rest ⟨name, constraint⟩ (tokensOf items)) :
    TurnAgrees policy t o ⟨i, .variableOpen⟩ rest (⟨i, .declaration name constraint⟩ :: items) := by
  have hturn : t.turn policy ⟨i, .variableOpen⟩ rest = (do
      Traced.ofExcept (Declaration.check i ⟨name, constraint⟩)
      return (← t.declare policy ⟨name, constraint⟩, tokensOf items)) := by
    simp only [turn, hrest.takeDeclaration_eq]
    cases Declaration.check i ⟨name, constraint⟩ <;> rfl
  have hagree := (h.agree_declare policy i ⟨name, constraint⟩).beside (tokensOf items)
  rw [Traced.bind_assoc] at hagree
  refine .one nofun ?_
  rw [hturn]
  exact hagree

/-- A turn takes one item, or stars and the slash after them. -/
theorem Stands.turnAgrees (h : Stands t o items) {head : Located Token}
    {rest : List (Located Token)} (htokens : tokensOf items = head :: rest) :
    TurnAgrees policy t o head rest items := by
  rcases items with _ | ⟨⟨i, item⟩, items⟩
  · cases htokens
  cases item with
  | declaration name constraint =>
    obtain ⟨rfl, hrest⟩ := startsDeclaration_of_tokensOf htokens
    exact turnAgrees_declaration h.toWrites hrest
  | literal c =>
    cases htokens
    exact turnAgrees_literal h
  | recursiveWildcard =>
    cases htokens
    exact turnAgrees_recursiveWildcard h.toWrites i items
  | escaped _ | fullStop | wildcard =>
    cases htokens
    exact .one nofun (.ok ⟨rfl, h.append rfl rfl nofun rfl⟩)
  | closingBrace =>
    cases htokens
    exact .one nofun .error
  | groupOpen =>
    cases htokens
    exact .one nofun (.ok ⟨rfl, h.openGroup i i⟩)
  | groupClose =>
    cases htokens
    exact .one nofun ((h.agree_closeGroup i).beside _)
  | alternation =>
    cases htokens
    refine .one nofun (.ok ⟨rfl, h.write (Continues.alternate o.level) nofun ?_ rfl⟩)
    exact fun hblank => List.cons_ne_nil _ _ hblank.1
  | optional =>
    cases htokens
    exact .one nofun ((h.agree_makeOptional i).beside _)

/-! ## Whole runs -/

/-- A run with enough turns takes all items. Every turn takes an item at least, and so a token. -/
theorem Stands.agree_run {fuel : Nat} (h : Stands t o items)
    (hfuel : (tokensOf items).length ≤ fuel) :
    Traced.Agree Writes (run policy fuel t (tokensOf items)) (o.steps policy items) := by
  induction fuel generalizing t o items with
  | zero =>
    obtain rfl := tokensOf_eq_nil (List.length_eq_zero_iff.1 (Nat.le_zero.1 hfuel))
    exact .ok h.toWrites
  | succ fuel ih =>
    cases htokens : tokensOf items with
    | nil =>
      obtain rfl := tokensOf_eq_nil htokens
      exact .ok h.toWrites
    | cons head rest =>
      obtain ⟨taken, left, htaken, hagree⟩ : TurnAgrees policy t o head rest items :=
        h.turnAgrees htokens
      rw [run, Outline.steps_append]
      refine hagree.bind fun r o' hr => ?_
      obtain ⟨t', rest'⟩ := r
      obtain ⟨rfl, hstands⟩ := hr
      refine ih hstands ?_
      have hpos := List.length_pos_iff.2 (mt tokensOf_eq_nil htaken)
      rw [tokensOf_append, List.length_append] at hfuel
      omega

theorem Writes.agree_finish (h : Writes t o) :
    Traced.Agree (fun a p => a = translation p) (.ofExcept t.finish) (.ofExcept o.finish) := by
  rw [finish, Outline.finish, h.openGroups, List.getLast?_map]
  cases henclosing : o.enclosing.getLast? with
  | some e => exact .error
  | none =>
    have hnil := List.getLast?_eq_none_iff.1 henclosing
    have hout : t.out = "^(?:".toList ++ o.level.toPattern.render 0 := by
      rw [h.out, Outline.written, hnil]
      rfl
    have hdeclared : o.declared.reverse = o.level.toPattern.declarations := by
      rw [h.declares, hnil]
      rfl
    have hsource : String.ofList (t.out ++ ")$".toList) = o.level.toPattern.source :=
      congrArg (fun cs => String.ofList (cs ++ ")$".toList)) hout
    have hnames : t.variableNames = o.level.toPattern.variableNames := by
      rw [h.variableNames, hdeclared, Pattern.variableNames]
    have hconstraints : t.constraints = o.level.toPattern.constraints := by
      rw [h.constraints, hdeclared, Pattern.constraints]
    rw [hsource, hnames, hconstraints]
    exact .ok rfl

end Translator

/-! ## Whole texts -/

theorem agree_ofTokens (policy : DuplicatePolicy) (items : List (Located Item)) :
    Traced.Agree (fun a p => a = translation p) (ofTokens policy (tokensOf items))
      (ofScan policy items) := by
  have hstart : Translator.Stands {} {} items := ⟨.start, nofun⟩
  exact (hstart.agree_run (Nat.le_refl _)).bind fun t o h => h.agree_finish

/-- Translating the tokens of a text comes to the same as rendering its tree. -/
theorem translate_eq (text : String) (options : Options) :
    translate text options = translation <$> parse text options := by
  refine Traced.Agree.eq_map ?_
  rw [translate, parse, Traced.mapError_bind]
  refine Traced.Agree.bind (R := Eq) (.ok rfl) fun _ _ _ => ?_
  by_cases hlong : options.maxPatternLength.toNat < text.utf8ByteSize
  · rw [if_pos hlong, if_pos hlong]
    exact .error
  · rw [if_neg hlong, if_neg hlong]
    show Traced.Agree _ (tokenize text >>= _) (Traced.mapError _ (itemsOf text >>= _))
    rw [tokenize, Traced.mapError_bind, Traced.mapError_bind, Traced.bind_assoc]
    refine Traced.Agree.bind (R := Eq) (.refl _) ?_
    rintro items _ rfl
    exact (agree_ofTokens options.duplicates items).mapError _

/-- Declarations within a group and behind it are numbered in one sequence. -/
example : (translate "(a|**/\x7bx:b\x7d)?\x7by\x7d").outcome =
    .ok ⟨"^(?:(?:a|(?:[^/]+/)*(?P<__var0>b))?(?P<__var1>[^/]+))$", ["x", "y"], [("x", "b")]⟩ := rfl

end PathGlob.Pattern
