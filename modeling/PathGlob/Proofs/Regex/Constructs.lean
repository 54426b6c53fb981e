-- SUMMARY: Each step of the parser reads one construct, by the mode alone, and applies it to the state.
import PathGlob.Proofs.Regex.BracketSuffix
import PathGlob.Proofs.Regex.Stepping

/-!
# Constructs

A step of the parser depends on the state in two ways: the mode decides what is read, and what is
read changes the state. `readConstruct` and `Construct.apply` take the two apart, so that a property
of the parser is a property of seven kinds of constructs. A construct is read the same in front of a
closing parenthesis, unless the text ends in the middle of it.
-/

namespace PathGlob.Regex

/-- Whether a tree is one item as it is written. -/
def Ast.isLeaf : Ast → Bool
  | .literal _ | .dot | .assertion _ | .shorthand _ _ | .property _ _ | .bracket _ _ => true
  | _ => false

/-- What the parser reads in one step. -/
inductive Construct where
  | item (a : Ast) (leaf : a.isLeaf = true)
  | settings (s : Settings)
  | openGroup (s : Settings)
  | openCapture (name : Option String)
  | close
  | bar
  | repetition (min : Nat) (max : Option Nat) (greedy : Bool)

/-- What a construct does to the parser. -/
def Construct.apply (σ : State) : Construct → Option State
  | .item a _ => some (σ.push a)
  | .settings s => some { σ.push (.settings s) with verbose := (s.get? .verbose).getD σ.verbose }
  | .openGroup s => some (σ.openGroup (.plain s) ((s.get? .verbose).getD σ.verbose))
  | .openCapture name => if name.any σ.names.contains then none else some (σ.openCapture name)
  | .close => σ.closeGroup
  | .bar => some σ.alternate
  | .repetition min max greedy => σ.repeatLast min max greedy

section

variable {σ σ' : State}

theorem Construct.apply_openCapture {name : Option String}
    (h : (openCapture name).apply σ = some σ') :
    ¬ name.any σ.names.contains = true ∧ σ' = σ.openCapture name := by
  change (if name.any σ.names.contains = true then none else _) = _ at h
  split at h
  · cases h
  · next hname => exact ⟨hname, (Option.some.inj h).symm⟩

theorem State.closeGroup_eq_some (h : σ.closeGroup = some σ') :
    ∃ f frames, σ.frames = f :: frames ∧ σ' = { σ with
      frames
      branches := f.branches
      items := f.kind.close σ.body :: f.items
      verbose := f.verbose } := by
  unfold closeGroup at h
  split at h
  · cases h
  · next f frames hframes => exact ⟨f, frames, hframes, (Option.some.inj h).symm⟩

theorem State.repeatLast_eq_some {min : Nat} {max : Option Nat} {greedy : Bool}
    (h : σ.repeatLast min max greedy = some σ') : ∃ a rest, σ.items = a :: rest ∧
      σ' = { σ with items := .repetition min max greedy a :: rest } := by
  unfold repeatLast at h
  split at h
  · cases h
  · cases h
  · next a rest _ hitems => exact ⟨a, rest, hitems, (Option.some.inj h).symm⟩

end

/-! ## Reading constructs -/

theorem isLeaf_itemOf (c : Char) : (State.itemOf c).isLeaf = true := by
  unfold State.itemOf
  repeat' split
  all_goals rfl

theorem isLeaf_toAst (e : Escape) : e.toAst.isLeaf = true := by
  cases e <;> rfl

/-- Reads the name of a group. -/
def readNamed (cs : List Char) : Option (Construct × List Char) :=
  (readName true cs).map fun r => (.openCapture (some (.ofList r.1)), r.2)

/-- Reads settings, or a group that begins with some. -/
def readFlags (cs : List Char) : Option (Construct × List Char) := do
  let (s, opens, rest) ← readSettings false false [] cs
  if opens then some (.openGroup s, rest)
  else if s.isEmpty then none
  else some (.settings s, rest)

/-- Reads what follows an opening parenthesis. -/
def readOpening (v : Bool) (cs : List Char) : Option (Construct × List Char) :=
  match skip v cs with
  | '?' :: 'P' :: '<' :: cs => readNamed cs
  | '?' :: '<' :: cs =>
    match cs with
    | '=' :: _ | '!' :: _ => none
    | cs => readNamed cs
  | '?' :: cs => readFlags cs
  | cs => some (.openCapture none, cs)

/-- A repetition, lazy if a question mark follows. -/
def withGreed (min : Nat) (max : Option Nat) : List Char → Construct × List Char
  | '?' :: cs => (.repetition min max false, cs)
  | cs => (.repetition min max true, cs)

section

variable {v : Bool} {cs rest : List Char}

theorem readOpening_of_named (h : skip v cs = '?' :: 'P' :: '<' :: rest) :
    readOpening v cs = readNamed rest := by
  rw [readOpening, h]
  rfl

/-- There is no looking behind. -/
theorem readOpening_of_behind {c : Char} (h : skip v cs = '?' :: '<' :: c :: rest)
    (hc : c = '=' ∨ c = '!') : readOpening v cs = none := by
  rw [readOpening, h]
  rcases hc with rfl | rfl <;> rfl

theorem readOpening_of_angle (h : skip v cs = '?' :: '<' :: rest)
    (hequal : ∀ tail, rest ≠ '=' :: tail) (hbang : ∀ tail, rest ≠ '!' :: tail) :
    readOpening v cs = readNamed rest := by
  rw [readOpening, h]
  show (match rest with
    | '=' :: _ | '!' :: _ => none
    | cs => readNamed cs) = _
  split
  · exact (hequal _ rfl).elim
  · exact (hbang _ rfl).elim
  · rfl

theorem readOpening_of_flags (h : skip v cs = '?' :: rest)
    (hnamed : ∀ tail, rest ≠ 'P' :: '<' :: tail) (hangle : ∀ tail, rest ≠ '<' :: tail) :
    readOpening v cs = readFlags rest := by
  rw [readOpening, h]
  split
  · next heq => exact (hnamed _ (List.cons.inj heq).2).elim
  · next heq => exact (hangle _ (List.cons.inj heq).2).elim
  · next heq => rw [(List.cons.inj heq).2]
  · next hmark => exact (hmark rest rfl).elim

theorem readOpening_of_plain (h : ∀ tail, skip v cs ≠ '?' :: tail) :
    readOpening v cs = some (.openCapture none, skip v cs) := by
  rw [readOpening]
  split
  · next heq => exact (h _ heq).elim
  · next heq => exact (h _ heq).elim
  · next heq => exact (h _ heq).elim
  · rfl

theorem withGreed_of_ne {min : Nat} {max : Option Nat} (h : ∀ tail, cs ≠ '?' :: tail) :
    withGreed min max cs = (.repetition min max true, cs) := by
  unfold withGreed
  split
  · exact (h _ rfl).elim
  · rfl

end

/-- Reads the construct that begins with `c`. -/
def readConstruct (v : Bool) (c : Char) (cs : List Char) : Option (Construct × List Char) :=
  if c = '(' then readOpening v cs
  else if c = ')' then some (.close, cs)
  else if c = '|' then some (.bar, cs)
  else if c = '[' then
    (readBracket v cs).map fun r => (.item (.bracket r.1.negated r.1.set) rfl, r.2)
  else if c = '?' then some (withGreed 0 (some 1) cs)
  else if c = '*' then some (withGreed 0 none cs)
  else if c = '+' then some (withGreed 1 none cs)
  else if c = '{' then (readBounds v cs).map fun r => withGreed r.1 r.2.1 (skip v r.2.2)
  else if c = '\\' then
    (readEscape v cs).map fun r => (.item r.1.toAst (isLeaf_toAst r.1), r.2)
  else some (.item (State.itemOf c) (isLeaf_itemOf c), cs)

theorem readConstruct_of_not_mem {c : Char} (h : c ∉ State.marks) (v : Bool) (cs : List Char) :
    readConstruct v c cs = some (.item (State.itemOf c) (isLeaf_itemOf c), cs) := by
  simp only [State.marks, List.mem_cons, List.not_mem_nil, or_false, not_or] at h
  obtain ⟨h₁, h₂, h₃, h₄, h₅, h₆, h₇, h₈, h₉⟩ := h
  rw [readConstruct, if_neg h₁, if_neg h₂, if_neg h₃, if_neg h₄, if_neg h₅, if_neg h₆, if_neg h₇,
    if_neg h₈, if_neg h₉]

/-! ## Steps -/

namespace State

variable (σ : State) (cs : List Char)

/-- Applies what is read to the state it is read in. -/
def applied (r : Construct × List Char) : Option (State × List Char) :=
  (r.1.apply σ).map (·, r.2)

theorem openNamed_eq : openNamed σ cs = (readNamed cs).bind σ.applied := by
  unfold openNamed readNamed
  cases readName true cs with
  | none => rfl
  | some r =>
    show (if σ.names.contains (String.ofList r.1) = true then none else _) =
      Option.map _ (if Option.any σ.names.contains (some (String.ofList r.1)) = true then _ else _)
    rw [Option.any_some]
    split <;> rfl

theorem readGroup_eq : readGroup σ cs = (readOpening σ.verbose cs).bind σ.applied := by
  unfold readGroup
  split
  · next hskip =>
    rw [readOpening_of_named hskip]
    exact openNamed_eq σ _
  · next hskip =>
    split
    · rw [readOpening_of_behind hskip (.inl rfl)]
      rfl
    · rw [readOpening_of_behind hskip (.inr rfl)]
      rfl
    · next hequal hbang =>
      rw [readOpening_of_angle hskip hequal hbang]
      exact openNamed_eq σ _
  · next cs hnamed hangle hskip =>
    rw [readOpening_of_flags hskip hnamed hangle, readFlags]
    cases readSettings false false [] cs with
    | none => rfl
    | some r =>
      obtain ⟨s, opens, rest⟩ := r
      cases opens with
      | true => rfl
      | false => cases s <;> rfl
  · next hmark =>
    rw [readOpening_of_plain hmark]
    rfl

theorem readGreed_eq (min : Nat) (max : Option Nat) :
    readGreed σ min max cs = σ.applied (withGreed min max cs) := by
  unfold readGreed
  split
  · rfl
  · next hmark =>
    rw [withGreed_of_ne hmark]
    rfl

theorem readCounted_eq : readCounted σ cs =
    ((readBounds σ.verbose cs).map fun r => withGreed r.1 r.2.1 (skip σ.verbose r.2.2)).bind
      σ.applied := by
  unfold readCounted
  cases readBounds σ.verbose cs with
  | none => rfl
  | some r => exact readGreed_eq σ _ r.1 r.2.1

/-- A step is the construct that comes next, applied. -/
theorem step_eq (c : Char) : σ.step c cs = (readConstruct σ.verbose c cs).bind σ.applied := by
  by_cases hc : c ∈ marks
  · simp only [marks, List.mem_cons, List.not_mem_nil, or_false] at hc
    rcases hc with rfl | rfl | rfl | rfl | rfl | rfl | rfl | rfl | rfl
    · exact readGroup_eq σ cs
    · rfl
    · rfl
    · show (readBracket σ.verbose cs).map _ = ((readBracket σ.verbose cs).map _).bind _
      cases readBracket σ.verbose cs <;> rfl
    · exact readGreed_eq σ cs 0 (some 1)
    · exact readGreed_eq σ cs 0 none
    · exact readGreed_eq σ cs 1 none
    · exact readCounted_eq σ cs
    · show (readEscape σ.verbose cs).map _ = ((readEscape σ.verbose cs).map _).bind _
      cases readEscape σ.verbose cs <;> rfl
  · rw [step_of_not_mem hc, readConstruct_of_not_mem hc]
    rfl

theorem step_eq_some {σ σ' : State} {c : Char} {x y : List Char}
    (h : σ.step c x = some (σ', y)) :
    ∃ k, readConstruct σ.verbose c x = some (k, y) ∧ k.apply σ = some σ' := by
  rw [step_eq] at h
  obtain ⟨⟨k, rest⟩, hread, happly⟩ := Option.bind_eq_some_iff.1 h
  obtain ⟨τ, hτ, heq⟩ := Option.map_eq_some_iff.1 happly
  cases heq
  exact ⟨k, hread, hτ⟩

end State

/-! ## In front of a parenthesis -/

variable {v : Bool} {x y s : List Char} {c : Char} {k : Construct}

theorem readName_append {first : Bool} {name : List Char} (s : List Char)
    (h : readName first x = some (name, y)) : readName first (x ++ s) = some (name, y ++ s) := by
  -- The reader stops at the bracket that closes the name, within the text.
  induction x generalizing first name with
  | nil => cases h
  | cons c cs ih =>
    rw [List.cons_append]
    rw [readName] at h ⊢
    split
    · next hc =>
      rw [if_pos hc] at h
      split at h
      · cases h
      · next hfirst =>
        cases h
        rw [if_neg hfirst]
    · next hc =>
      rw [if_neg hc] at h
      split
      · next hchar =>
        rw [if_pos hchar] at h
        obtain ⟨⟨tail, rest⟩, htail, heq⟩ := Option.map_eq_some_iff.1 h
        cases heq
        rw [ih htail]
        rfl
      · next hchar =>
        rw [if_neg hchar] at h
        cases h

theorem readSettings_append {off pending opens : Bool} {read settings : Settings} (s : List Char)
    (h : readSettings off pending read x = some (settings, opens, y)) :
    readSettings off pending read (x ++ s) = some (settings, opens, y ++ s) := by
  induction x generalizing off pending read with
  | nil => cases h
  | cons c cs ih =>
    rw [List.cons_append]
    rw [readSettings] at h ⊢
    split
    · next hc =>
      rw [if_pos hc] at h
      split at h
      · cases h
      · next hpending =>
        cases h
        rw [if_neg hpending]
    · next hc =>
      rw [if_neg hc] at h
      split
      · next hminus =>
        rw [if_pos hminus] at h
        split at h
        · cases h
        · next hoff =>
          rw [if_neg hoff]
          exact ih h
      · next hminus =>
        rw [if_neg hminus] at h
        split at h
        · cases h
        · split at h
          · cases h
          · next hread =>
            rw [if_neg hread]
            exact ih h

theorem readNamed_append (h : readNamed x = some (k, y)) :
    readNamed (x ++ s) = some (k, y ++ s) := by
  obtain ⟨⟨name, rest⟩, hname, heq⟩ := Option.map_eq_some_iff.1 h
  cases heq
  rw [readNamed, readName_append s hname]
  rfl

theorem readFlags_append (h : readFlags x = some (k, y)) :
    readFlags (x ++ s) = some (k, y ++ s) := by
  obtain ⟨⟨settings, opens, rest⟩, hread, h⟩ := Option.bind_eq_some_iff.1 h
  unfold readFlags
  rw [readSettings_append s hread]
  show (if opens = true then _ else if settings.isEmpty = true then _ else _) = _
  dsimp only at h
  split at h
  · next hopens =>
    cases h
    rw [if_pos hopens]
  · next hopens =>
    rw [if_neg hopens]
    split at h
    · cases h
    · next hempty =>
      cases h
      rw [if_neg hempty]

theorem exists_cons_of_append_eq (h : x ++ ')' :: s = c :: y) (hc : c ≠ ')') :
    ∃ cs, x = c :: cs ∧ y = cs ++ ')' :: s := by
  cases x with
  | nil =>
    cases h
    exact absurd rfl hc
  | cons d ds =>
    cases h
    exact ⟨ds, rfl, rfl⟩

/-- The text alone shows what does not follow, and so it does in front of the parenthesis. -/
theorem readOpening_append (hx : skip v x ≠ []) (h : readOpening v x = some (k, y)) :
    readOpening v (x ++ ')' :: s) = some (k, y ++ ')' :: s) := by
  have hskip : skip v (x ++ ')' :: s) = skip v x ++ ')' :: s := skip_append_of_ne_nil _ hx
  unfold readOpening at h
  split at h
  · next heq =>
    rw [heq] at hskip
    exact (readOpening_of_named hskip).trans (readNamed_append h)
  · next heq =>
    rw [heq] at hskip
    split at h
    · cases h
    · cases h
    · next hequal hbang =>
      refine (readOpening_of_angle hskip (fun tail htail => ?_) fun tail htail => ?_).trans
        (readNamed_append h)
      · obtain ⟨ds, rfl, -⟩ := exists_cons_of_append_eq htail (by decide)
        exact hequal ds rfl
      · obtain ⟨ds, rfl, -⟩ := exists_cons_of_append_eq htail (by decide)
        exact hbang ds rfl
  · next hnamed hangle heq =>
    rw [heq] at hskip
    refine (readOpening_of_flags hskip (fun tail htail => ?_) fun tail htail => ?_).trans
      (readFlags_append h)
    · obtain ⟨ds, rfl, hrest⟩ := exists_cons_of_append_eq htail (by decide)
      obtain ⟨es, rfl, -⟩ := exists_cons_of_append_eq hrest.symm (by decide)
      exact hnamed es rfl
    · obtain ⟨ds, rfl, -⟩ := exists_cons_of_append_eq htail (by decide)
      exact hangle ds rfl
  · next hmark =>
    cases h
    rw [readOpening_of_plain, hskip]
    intro tail htail
    rw [hskip] at htail
    obtain ⟨ds, hds, -⟩ := exists_cons_of_append_eq htail (by decide)
    exact hmark ds hds

/-- A parenthesis is no sign of laziness. -/
theorem withGreed_append (min : Nat) (max : Option Nat) (x s : List Char) :
    withGreed min max (x ++ ')' :: s) =
      ((withGreed min max x).1, (withGreed min max x).2 ++ ')' :: s) := by
  cases x with
  | nil => rfl
  | cons c cs =>
    by_cases hc : c = '?'
    · subst hc
      rfl
    · have hne (ds tail : List Char) : c :: ds ≠ '?' :: tail := fun heq =>
        hc (List.cons.inj heq).1
      rw [List.cons_append, withGreed_of_ne (hne _), withGreed_of_ne (hne _)]
      rfl

/-- Whether a count of repetitions is all that is left of a text but for a comment open at its
end. -/
def EndsCounted (v : Bool) (c : Char) (x : List Char) : Prop :=
  c = '{' ∧ ∃ min max rest, readBounds v x = some (min, max, rest) ∧ IsOpen v rest

/-- Whether a text ends in the middle of the construct that begins with `c`. -/
def IsCut (v : Bool) (c : Char) (x : List Char) : Prop :=
  c = '(' ∧ skip v x = [] ∨ EndsCounted v c x

theorem readCounted_append (hcut : ¬ IsCut v '{' x)
    (h : (readBounds v x).map (fun r => withGreed r.1 r.2.1 (skip v r.2.2)) = some (k, y)) :
    (readBounds v (x ++ ')' :: s)).map (fun r => withGreed r.1 r.2.1 (skip v r.2.2)) =
      some (k, y ++ ')' :: s) := by
  obtain ⟨⟨min, max, rest⟩, hbounds, heq⟩ := Option.map_eq_some_iff.1 h
  have hrest : ¬ IsOpen v rest := fun hopen =>
    hcut (.inr ⟨rfl, min, max, rest, hbounds, hopen⟩)
  rw [readBounds_append _ hbounds]
  show some (withGreed min max (skip v (rest ++ ')' :: s))) = _
  rw [skip_append_of_not_isOpen _ hrest, withGreed_append]
  have heq : withGreed min max (skip v rest) = (k, y) := heq
  rw [heq]

/-- A construct that is read in full is read the same in front of a parenthesis. -/
theorem readConstruct_append (hcut : ¬ IsCut v c x) (h : readConstruct v c x = some (k, y)) :
    readConstruct v c (x ++ ')' :: s) = some (k, y ++ ')' :: s) := by
  have hgreed {min : Nat} {max : Option Nat} (h : some (withGreed min max x) = some (k, y)) :
      some (withGreed min max (x ++ ')' :: s)) = some (k, y ++ ')' :: s) := by
    rw [withGreed_append, Option.some.inj h]
  by_cases hc : c ∈ State.marks
  · simp only [State.marks, List.mem_cons, List.not_mem_nil, or_false] at hc
    rcases hc with rfl | rfl | rfl | rfl | rfl | rfl | rfl | rfl | rfl
    · exact readOpening_append (fun hx => hcut (.inl ⟨rfl, hx⟩)) h
    · cases h
      rfl
    · cases h
      rfl
    · obtain ⟨⟨l, rest⟩, hread, heq⟩ := Option.map_eq_some_iff.1 h
      cases heq
      show (readBracket v _).map _ = _
      rw [readBracket_append _ hread]
      rfl
    · exact hgreed h
    · exact hgreed h
    · exact hgreed h
    · exact readCounted_append hcut h
    · obtain ⟨⟨e, rest⟩, hread, heq⟩ := Option.map_eq_some_iff.1 h
      cases heq
      show (readEscape v _).map _ = _
      rw [readEscape_append _ hread]
      rfl
  · rw [readConstruct_of_not_mem hc] at h ⊢
    cases h
    rfl

end PathGlob.Regex
